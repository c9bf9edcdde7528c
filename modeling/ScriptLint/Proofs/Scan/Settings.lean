import ScriptLint.Fault.Message
import ScriptLint.Proofs.Fault
import ScriptLint.Scan.Options

/-!
# What settings come to

Three keys are known, and each may be written with the name of the tool in front of it. Of the settings
that write one key, in either spelling, the last one counts: `lastWritten?` picks it out of the settings as
they are given, where the options are read from settings whose keys have been shortened
(`last?_of_shortKeys`). The name of the tool is taken off once, so a key that has it twice is none of the
known ones (`shortKey_eq_iff`).

`Reading` lists what three values, or their absence, come to, in the order in which it is found out: a
delay that is no number or too large for one, a flag that is none, a negative delay, or options.
`ofSettings_eq_iff_reading` shows that settings come to what their last values do, and that all others
can be added, taken out and moved about.
-/

namespace ScriptLint

namespace ScanOptions

/-! ## The last value of a key -/

/-- All keys of the settings are texts. -/
def HasTextKeys (settings : Register Value) : Prop :=
  ∀ entry ∈ settings.entries, ∃ key, entry.1.shown = .text key

/-- Whether a setting writes a key, by its name alone or with the name of the tool in front. -/
def writes (key : String) (entry : Identity × Value) : Bool :=
  match entry.1.shown with
  | .text written => written = key ∨ written = "cscript." ++ key
  | _ => false

/-- The value of the last setting that writes a key. -/
def lastWritten? (settings : Register Value) (key : String) : Option Value :=
  (settings.entries.filter (writes key)).getLast?.map Prod.snd

/-- A key that does not begin with the name of the tool is short for itself and for the key with that name
in front. -/
theorem shortKey_eq_iff {written key : String} (hkey : ¬ keyPrefix <+: key.toList) :
    shortKey written = key ↔ written = key ∨ written = "cscript." ++ key := by
  have hlong : ("cscript." ++ key).toList = keyPrefix ++ key.toList := String.toList_append
  unfold shortKey
  split
  · next hwritten =>
    obtain ⟨rest, hrest⟩ := List.isPrefixOf_iff_prefix.mp hwritten
    rw [← hrest, List.drop_left]
    constructor
    · intro hshort
      right
      rw [← String.toList_inj, hlong, ← hrest, ← hshort, String.toList_ofList]
    · rintro (rfl | rfl)
      · exact absurd ⟨rest, hrest⟩ hkey
      · rw [hlong] at hrest
        rw [List.append_cancel_left hrest, String.ofList_toList]
  · next hwritten =>
    rw [List.isPrefixOf_iff_prefix] at hwritten
    refine ⟨Or.inl, ?_⟩
    rintro (rfl | rfl)
    · rfl
    · exact absurd ⟨key.toList, hlong.symm⟩ hwritten

/-- A setting under its short key, if it has one. -/
def shortEntry? (entry : Identity × Value) : Option (String × Value) :=
  match entry.1.shown with
  | .text key => some (shortKey key, entry.2)
  | _ => none

/-- The first setting with a short key is the first that writes the key. -/
theorem lookup_shortEntry? {key : String} (hkey : ¬ keyPrefix <+: key.toList)
    (entries : List (Identity × Value)) :
    (entries.filterMap shortEntry?).lookup key = (entries.find? (writes key)).map Prod.snd := by
  induction entries with
  | nil => rfl
  | cons entry rest ih =>
    obtain ⟨⟨shown, found⟩, v⟩ := entry
    cases shown with
    | text written =>
      have hshort : shortEntry? (⟨.text written, found⟩, v) = some (shortKey written, v) := rfl
      rw [List.filterMap_cons_some hshort, List.lookup_cons, List.find?_cons, ih]
      by_cases hwritten : written = key ∨ written = "cscript." ++ key
      · have hsame : (key == shortKey written) = true := by
          rw [(shortKey_eq_iff hkey).mpr hwritten, beq_self_eq_true]
        have hwrites : writes key (⟨.text written, found⟩, v) = true := decide_eq_true hwritten
        rw [hsame, hwrites]
        rfl
      · have hsame : (key == shortKey written) = false := by
          rw [beq_eq_false_iff_ne]
          exact fun heq => hwritten ((shortKey_eq_iff hkey).mp heq.symm)
        have hwrites : writes key (⟨.text written, found⟩, v) = false := decide_eq_false hwritten
        rw [hsame, hwrites]
    | _ => exact ih

/-- The last value under a short key is the last that is written. -/
theorem last?_of_shortKeys {settings : Register Value} {short : List (String × Value)}
    (hshort : shortKeys settings = .ok short) {key : String} (hkey : ¬ keyPrefix <+: key.toList) :
    last? short key = lastWritten? settings key := by
  have hentries : short = settings.entries.filterMap shortEntry? := by
    refine eq_filterMap_of_mapM ?_ hshort
    intro entry _ pair hpair
    unfold shortEntry?
    split at hpair
    · next written hwritten =>
      cases hpair
      rw [hwritten]
    · cases hpair
    · cases hpair
  -- Both look from the end, so the last of the one is the last of the other.
  rw [last?, lastWritten?, hentries, ← List.filterMap_reverse, lookup_shortEntry? hkey,
    List.getLast?_filter]

/-- Keys that are texts can be shortened. -/
theorem exists_shortKeys {settings : Register Value} (hkeys : HasTextKeys settings) :
    ∃ short, shortKeys settings = .ok short := by
  rw [← fault?_eq_none_iff, shortKeys, fault?_mapM, List.findSome?_eq_none_iff]
  intro entry hentry
  obtain ⟨key, hkey⟩ := hkeys entry hentry
  rw [hkey]
  rfl

/-- The options of settings are those of the values that are written last under the three keys. -/
theorem ofSettings_eq {settings : Register Value} (hkeys : HasTextKeys settings) :
    ofSettings settings = ofKnown (lastWritten? settings "diagnostics.debounceMs")
      (lastWritten? settings "diagnostics.enabled")
      (lastWritten? settings "diagnostics.checkOnType") := by
  obtain ⟨short, hshort⟩ := exists_shortKeys hkeys
  rw [ofSettings, hshort, ok_bind, last?_of_shortKeys hshort (by decide),
    last?_of_shortKeys hshort (by decide), last?_of_shortKeys hshort (by decide)]

/-! ## What three values come to -/

/-- The delay that a setting in milliseconds stands for, or the usual one where there is none. -/
inductive Delay : Option Value → Seconds → Prop where
  | absent : Delay none (.real 0.5)
  | integer (n : Int) (x : Float) (hreal : toReal n = .ok x) :
      Delay (some (.integer n)) (.real (x / 1000))
  | real (x : Float) : Delay (some (.real x)) (.real (x / 1000))

/-- The flag that a setting is, or true where there is none. -/
inductive Flag : Option Value → Bool → Prop where
  | absent : Flag none true
  | given (b : Bool) : Flag (some (.flag b)) b

/-- What the values of the three keys come to. The cases exclude each other, and stand in the order in
which they are found out: each says that those before it do not apply. -/
inductive Reading (debounceMs enabled checkOnType : Option Value) :
    Except Fault ScanOptions → Prop where
  | notNumber (v : Value) (hgiven : debounceMs = some v) (hinteger : v.kind ≠ .integer)
      (hreal : v.kind ≠ .real) :
      Reading debounceMs enabled checkOnType
        (.error (.settingNotNumber "diagnostics.debounceMs" v))
  | tooLarge (n : Int) (hgiven : debounceMs = some (.integer n))
      (hlarge : toReal n = .error .numberTooLarge) :
      Reading debounceMs enabled checkOnType (.error .numberTooLarge)
  | enabledNotFlag (delay : Seconds) (hdelay : Delay debounceMs delay) (v : Value)
      (hgiven : enabled = some v) (hkind : v.kind ≠ .flag) :
      Reading debounceMs enabled checkOnType (.error (.settingNotFlag "diagnostics.enabled" v))
  | checkOnTypeNotFlag (delay : Seconds) (hdelay : Delay debounceMs delay) (e : Bool)
      (henabled : Flag enabled e) (v : Value) (hgiven : checkOnType = some v)
      (hkind : v.kind ≠ .flag) :
      Reading debounceMs enabled checkOnType
        (.error (.settingNotFlag "diagnostics.checkOnType" v))
  | negative (delay : Seconds) (hdelay : Delay debounceMs delay) (e : Bool)
      (henabled : Flag enabled e) (c : Bool) (hcheck : Flag checkOnType c)
      (hnegative : delay.isNegative = true) :
      Reading debounceMs enabled checkOnType (.error .negativeDebounce)
  | options (delay : Seconds) (hdelay : Delay debounceMs delay) (e : Bool)
      (henabled : Flag enabled e) (c : Bool) (hcheck : Flag checkOnType c)
      (hnegative : delay.isNegative = false) :
      Reading debounceMs enabled checkOnType (.ok ⟨e, c, delay⟩)

section

variable {debounceMs enabled checkOnType : Option Value}

/-- An integer can be made a floating-point number unless it is too large. -/
theorem toReal_cases (n : Int) : toReal n = .error .numberTooLarge ∨ ∃ x, toReal n = .ok x := by
  unfold toReal
  dsimp only
  split
  · exact Or.inl rfl
  · exact Or.inr ⟨_, rfl⟩

/-- A setting for the delay is no number, is too large for one, or stands for a delay. -/
theorem delay_cases (setting : Option Value) :
    (∃ v, setting = some v ∧ v.kind ≠ .integer ∧ v.kind ≠ .real) ∨
      (∃ n, setting = some (.integer n) ∧ toReal n = .error .numberTooLarge) ∨
      ∃ delay, Delay setting delay := by
  cases setting with
  | none => exact Or.inr (Or.inr ⟨_, .absent⟩)
  | some v =>
    cases v with
    | integer n =>
      rcases toReal_cases n with hlarge | ⟨x, hx⟩
      · exact Or.inr (Or.inl ⟨n, rfl, hlarge⟩)
      · exact Or.inr (Or.inr ⟨_, .integer n x hx⟩)
    | real x => exact Or.inr (Or.inr ⟨_, .real x⟩)
    | _ => exact Or.inl ⟨_, rfl, by simp [Value.kind], by simp [Value.kind]⟩

/-- A setting for a flag is none, or stands for one. -/
theorem flag_cases (setting : Option Value) :
    (∃ v, setting = some v ∧ v.kind ≠ .flag) ∨ ∃ b, Flag setting b := by
  cases setting with
  | none => exact Or.inr ⟨_, .absent⟩
  | some v =>
    cases v with
    | flag b => exact Or.inr ⟨b, .given b⟩
    | _ => exact Or.inl ⟨_, rfl, by simp [Value.kind]⟩

/-- Once there is a delay, what is left are the flags and its sign. -/
theorem Delay.ofKnown_eq {delay : Seconds} (h : Delay debounceMs delay) :
    ofKnown debounceMs enabled checkOnType = (do
      let e ← readFlag "diagnostics.enabled" true enabled
      let c ← readFlag "diagnostics.checkOnType" true checkOnType
      make e c delay) := by
  cases h with
  | absent => rfl
  | integer n x hreal =>
    rw [ofKnown, readNumber, hreal]
    rfl
  | real x => rfl

/-- A flag is read as what it stands for. -/
theorem Flag.readFlag_eq {setting : Option Value} {b : Bool} (h : Flag setting b) (key : String) :
    readFlag key true setting = .ok b := by
  cases h with
  | absent => rfl
  | given => rfl

/-- What is no flag is not read as one. -/
theorem readFlag_eq_error {v : Value} (h : v.kind ≠ .flag) (key : String) :
    readFlag key true (some v) = .error (.settingNotFlag key v) := by
  cases v with
  | flag b => exact absurd rfl h
  | _ => rfl

/-- The values come to the outcome of each case that applies. -/
theorem Reading.ofKnown_eq {outcome : Except Fault ScanOptions}
    (h : Reading debounceMs enabled checkOnType outcome) :
    ofKnown debounceMs enabled checkOnType = outcome := by
  cases h with
  | notNumber v hgiven hinteger hreal =>
    rw [hgiven]
    cases v with
    | integer n => exact absurd rfl hinteger
    | real x => exact absurd rfl hreal
    | _ => rfl
  | tooLarge n hgiven hlarge =>
    rw [hgiven, ofKnown, readNumber, hlarge]
    rfl
  | enabledNotFlag delay hdelay v hgiven hkind =>
    rw [hdelay.ofKnown_eq, hgiven, readFlag_eq_error hkind]
    rfl
  | checkOnTypeNotFlag delay hdelay e henabled v hgiven hkind =>
    rw [hdelay.ofKnown_eq, henabled.readFlag_eq, hgiven, readFlag_eq_error hkind]
    rfl
  | negative delay hdelay e henabled c hcheck hnegative =>
    rw [hdelay.ofKnown_eq, henabled.readFlag_eq, hcheck.readFlag_eq, ok_bind, ok_bind, make,
      if_pos hnegative]
  | options delay hdelay e henabled c hcheck hnegative =>
    rw [hdelay.ofKnown_eq, henabled.readFlag_eq, hcheck.readFlag_eq, ok_bind, ok_bind, make,
      if_neg (by rw [hnegative]; exact Bool.false_ne_true)]

/-- One of the cases applies to all values. -/
theorem Reading.exists (debounceMs enabled checkOnType : Option Value) :
    ∃ outcome, Reading debounceMs enabled checkOnType outcome := by
  -- The checks are gone through in their order: the next one is made where there is no fault so far.
  obtain ⟨v, hgiven, hinteger, hreal⟩ | ⟨n, hgiven, hlarge⟩ | ⟨delay, hdelay⟩ :=
    delay_cases debounceMs
  · exact ⟨_, .notNumber v hgiven hinteger hreal⟩
  · exact ⟨_, .tooLarge n hgiven hlarge⟩
  obtain ⟨v, hgiven, hkind⟩ | ⟨e, henabled⟩ := flag_cases enabled
  · exact ⟨_, .enabledNotFlag delay hdelay v hgiven hkind⟩
  obtain ⟨v, hgiven, hkind⟩ | ⟨c, hcheck⟩ := flag_cases checkOnType
  · exact ⟨_, .checkOnTypeNotFlag delay hdelay e henabled v hgiven hkind⟩
  cases hnegative : delay.isNegative with
  | true => exact ⟨_, .negative delay hdelay e henabled c hcheck hnegative⟩
  | false => exact ⟨_, .options delay hdelay e henabled c hcheck hnegative⟩

/-- The values come to the one outcome that applies to them. -/
theorem ofKnown_eq_iff_reading {outcome : Except Fault ScanOptions} :
    ofKnown debounceMs enabled checkOnType = outcome ↔
      Reading debounceMs enabled checkOnType outcome := by
  refine ⟨?_, Reading.ofKnown_eq⟩
  rintro rfl
  obtain ⟨outcome, hreading⟩ := Reading.exists debounceMs enabled checkOnType
  rw [hreading.ofKnown_eq]
  exact hreading

end

/-! ## Settings -/

/-- The keys that options are read from. -/
def knownKeys : List String :=
  ["diagnostics.debounceMs", "diagnostics.enabled", "diagnostics.checkOnType"]

/-- Whether a setting writes one of the known keys. -/
def writesKnown (entry : Identity × Value) : Bool := knownKeys.any fun key => writes key entry

/-- The last value of a known key is found among the settings that write known keys. -/
theorem filter_writes_of_known {key : String} (hkey : key ∈ knownKeys)
    (entries : List (Identity × Value)) :
    (entries.filter writesKnown).filter (writes key) = entries.filter (writes key) := by
  rw [List.filter_filter]
  refine List.filter_congr fun entry _ => ?_
  cases hwrites : writes key entry with
  | false => rfl
  | true => exact List.any_eq_true.mpr ⟨key, hkey, hwrites⟩

/-- Settings whose keys are texts come to what the last values of the three known keys do, and to nothing
else: other settings with these last values come to the same, and in particular those that are left when
settings under other keys are added, taken out or moved. A fault is about the kind or the sign of a value,
or about an integer beyond all floating-point numbers. -/
theorem ofSettings_eq_iff_reading {settings : Register Value} (hkeys : HasTextKeys settings) :
    (∀ outcome, ofSettings settings = outcome ↔
      Reading (lastWritten? settings "diagnostics.debounceMs")
        (lastWritten? settings "diagnostics.enabled")
        (lastWritten? settings "diagnostics.checkOnType") outcome) ∧
    (∀ other, HasTextKeys other →
      (∀ key ∈ knownKeys, lastWritten? other key = lastWritten? settings key) →
        ofSettings other = ofSettings settings) ∧
    (∀ other, HasTextKeys other →
      other.entries.filter writesKnown = settings.entries.filter writesKnown →
        ofSettings other = ofSettings settings) ∧
    ∀ fault, ofSettings settings = .error fault →
      (fault = .numberTooLarge ∧ fault.family = .overflow) ∨
      (fault ≠ .numberTooLarge ∧ fault.family = .value) := by
  have hiff : ∀ outcome, ofSettings settings = outcome ↔
      Reading (lastWritten? settings "diagnostics.debounceMs")
        (lastWritten? settings "diagnostics.enabled")
        (lastWritten? settings "diagnostics.checkOnType") outcome := by
    intro outcome
    rw [ofSettings_eq hkeys, ofKnown_eq_iff_reading]
  have hlast : ∀ other, HasTextKeys other →
      (∀ key ∈ knownKeys, lastWritten? other key = lastWritten? settings key) →
        ofSettings other = ofSettings settings := by
    intro other hother hsame
    rw [ofSettings_eq hother, ofSettings_eq hkeys, hsame _ (by decide), hsame _ (by decide),
      hsame _ (by decide)]
  refine ⟨hiff, hlast, ?_, ?_⟩
  · intro other hother hknown
    refine hlast other hother fun key hkey => ?_
    rw [lastWritten?, lastWritten?, ← filter_writes_of_known hkey, hknown,
      filter_writes_of_known hkey]
  · intro fault hfault
    cases (hiff _).mp hfault with
    | notNumber v => exact Or.inr ⟨Fault.noConfusion, rfl⟩
    | tooLarge n => exact Or.inl ⟨rfl, rfl⟩
    | enabledNotFlag delay hdelay v => exact Or.inr ⟨Fault.noConfusion, rfl⟩
    | checkOnTypeNotFlag delay hdelay e henabled v => exact Or.inr ⟨Fault.noConfusion, rfl⟩
    | negative => exact Or.inr ⟨Fault.noConfusion, rfl⟩

/-- A flag is written in both spellings, and last as a number. The key with the name of the tool twice is
not known, and the setting of the other flag is wrong as well but is not looked at. -/
theorem ofSettings_eq_iff_reading_last_spelling :
    let key (name : String) : Identity := ⟨.text name, some (.text name)⟩
    let settings : Register Value := ⟨[(key "diagnostics.enabled", .flag false),
      (key "cscript.diagnostics.checkOnType", .null),
      (key "cscript.diagnostics.enabled", .integer 1),
      (key "cscript.cscript.diagnostics.enabled", .flag true)]⟩
    let fault := Fault.settingNotFlag "diagnostics.enabled" (.integer 1)
    HasTextKeys settings ∧ ofSettings settings = .error fault ∧ fault.family = .value := by
  intro key settings fault
  have hkeys : HasTextKeys settings := by
    intro entry hentry
    simp only [settings, key, List.mem_cons, List.not_mem_nil, or_false] at hentry
    rcases hentry with rfl | rfl | rfl | rfl
    · exact ⟨_, rfl⟩
    · exact ⟨_, rfl⟩
    · exact ⟨_, rfl⟩
    · exact ⟨_, rfl⟩
  have habsent : lastWritten? settings "diagnostics.debounceMs" = none := rfl
  have hlast : lastWritten? settings "diagnostics.enabled" = some (.integer 1) := rfl
  obtain ⟨hreading, -, -, hfamily⟩ := ofSettings_eq_iff_reading hkeys
  have hfault : ofSettings settings = .error fault := by
    rw [hreading, habsent, hlast]
    exact .enabledNotFlag _ .absent _ rfl (by decide)
  obtain ⟨hlarge, -⟩ | ⟨-, hvalue⟩ := hfamily fault hfault
  · exact Fault.noConfusion hlarge
  · exact ⟨hkeys, hfault, hvalue⟩

end ScanOptions

end ScriptLint
