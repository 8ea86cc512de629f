import SysCon.Sysmodule.ConfigPins
import SysCon.Sysmodule.Numerals

/-!
The tokens of a binding as documented: numbers for pins, names of axes with an
optional sign, and whatever else is ignored. `stringToAnalogConfig` writes its
result before it knows the name, and that is where the code differs.
-/

namespace SysCon.ConfigHandler

open CLibrary

/-! The tokens. -/

def tokenSign (tok : CString) : ℚ := if (convertToLowercase tok).head? = some '-' then -1 else 1

/-- A token in lower case, behind its sign. -/
def unsigned (tok : CString) : CString :=
  if (convertToLowercase tok).head? = some '-' ∨ (convertToLowercase tok).head? = some '+' then
    (convertToLowercase tok).tail
  else convertToLowercase tok

/-- The axis a token names, with its sign. -/
def namedAxis (tok : CString) : Option ControllerAnalogConfig :=
  (analogNames.lookup (unsigned tok)).map fun bind => { sign := tokenSign tok, bind }

def isAxis (tok : CString) : Bool := (namedAxis tok).isSome

def isPinNumber (tok : CString) : Bool :=
  isNumber tok && magnitude 10 tok < MAX_CONTROLLER_BUTTONS

def isValidToken (tok : CString) : Bool := isPinNumber tok || isAxis tok

def documentedPins (value : CString) : List Nat :=
  ((strtok ',' value).filter isPinNumber).map (magnitude 10)

def lastAxis (value : CString) : Option CString := ((strtok ',' value).filter isAxis).getLast?

def lastWord (value : CString) : Option CString :=
  ((strtok ',' value).filter fun tok => !isNumber tok).getLast?

def withoutInvalid (value : CString) : CString :=
  [','].intercalate ((strtok ',' value).filter isValidToken)

/-- The numbers of a value fit into an `int`. -/
def NumbersFit (value : CString) : Prop :=
  ∀ tok ∈ strtok ',' value, isNumber tok = true → magnitude 10 tok < 2 ^ 31

structure DocumentedBinding (value : CString) : Prop where
  pins : ∀ index (bound : index < MAX_PIN_BY_BUTTONS),
    (parseBinding value).buttonPin[index].toNat = (documentedPins value)[index]?.getD 0
  axis : ∀ tok, lastAxis value = some tok →
    namedAxis tok = some (parseBinding value).analogCfg
  noAxis : lastAxis value = none → (parseBinding value).analogCfg.bind = .unknown
  samePins : (parseBinding (withoutInvalid value)).buttonPin = (parseBinding value).buttonPin
  sameAxis : (parseBinding (withoutInvalid value)).analogCfg.bind =
    (parseBinding value).analogCfg.bind

/-- No axis is followed by a word that is none, unless the axis is `none` with the same sign. -/
def AxisStands (value : CString) : Prop :=
  ∀ tok word, lastAxis value = some tok → lastWord value = some word →
    isAxis word = true ∨ namedAxis tok = some { sign := tokenSign word, bind := .unknown }

/-! `strtok` gives back what is joined from tokens. -/

theorem mem_strtok {separator : Char} {str token : CString}
    (member : token ∈ strtok separator str) :
    separator ∉ token ∧ token ≠ [] := by
  rw [strtok, List.mem_filter] at member
  refine ⟨separator_not_mem_splitOn separator str token member.1, ?_⟩
  intro empty
  simp [empty] at member

theorem strtok_intercalate {separator : Char} {tokens : List CString}
    (clean : ∀ token ∈ tokens, separator ∉ token ∧ token ≠ []) :
    strtok separator ([separator].intercalate tokens) = tokens := by
  cases tokens with
  | nil => rfl
  | cons first rest =>
      rw [strtok, List.splitOn_intercalate separator (fun token member => (clean token member).1)
        (List.cons_ne_nil _ _)]
      refine List.filter_eq_self.mpr ?_
      intro token member
      simp [(clean token member).2]

theorem strtok_withoutInvalid (value : CString) :
    strtok ',' (withoutInvalid value) = (strtok ',' value).filter isValidToken :=
  strtok_intercalate fun _ member => mem_strtok (List.mem_filter.mp member).1

/-! Numbers. -/

theorem isDigitOf_ten {c : Char} (digit : c.isDigit = true) : isDigitOf 10 c = true := by
  have bounds := Char.isDigit_iff_toNat.mp digit
  simp only [isDigitOf, digitValue, digit, if_true, decide_eq_true_eq]
  have zero : '0'.toNat = 48 := rfl
  have nine : '9'.toNat = 57 := rfl
  omega

theorem isNumber_cases {tok : CString} (number : isNumber tok = true) :
    ∃ c rest, tok = c :: rest ∧ c.isDigit = true ∧ ∀ digit ∈ tok, digit.isDigit = true := by
  rw [isNumber, Bool.and_eq_true] at number
  have all := List.all_eq_true.mp number.2
  cases tok with
  | nil => exact absurd number.1 (by decide)
  | cons c rest => exact ⟨c, rest, rfl, all c List.mem_cons_self, all⟩

theorem atoi_isNumber {tok : CString} (number : isNumber tok = true)
    (small : magnitude 10 tok < 2 ^ 31) : atoi tok = magnitude 10 tok := by
  obtain ⟨_, _, _, _, digits⟩ := isNumber_cases number
  have value : strtol 10 tok = magnitude 10 tok :=
    strtol_digits_of_lt (by decide) (fun c member => isDigitOf_ten (digits c member)) (by omega)
  rw [atoi, value]
  exact Int.bmod_eq_of_le (by omega) (by omega)

/-! Pins. -/

theorem acceptedPins_eq {tokens : List CString}
    (fit : ∀ tok ∈ tokens, isNumber tok = true → magnitude 10 tok < 2 ^ 31) :
    acceptedPins tokens = ((tokens.filter isPinNumber).map (magnitude 10)).map Nat.cast := by
  induction tokens with
  | nil => rfl
  | cons tok rest ih =>
      obtain ⟨here, later⟩ := List.forall_mem_cons.mp fit
      by_cases number : isNumber tok = true
      · have value := atoi_isNumber number (here number)
        by_cases pin : magnitude 10 tok < MAX_CONTROLLER_BUTTONS
        · have accepted : IsPin tok := ⟨number, by rw [value]; exact_mod_cast pin⟩
          have listed : isPinNumber tok = true := by simp [isPinNumber, number, pin]
          rw [acceptedPins_cons_of_isPin accepted, List.filter_cons_of_pos listed, List.map_cons,
            List.map_cons, ih later, value]
        · have refused : ¬IsPin tok := by
            intro accepted
            have small := accepted.2
            rw [value] at small
            exact pin (by exact_mod_cast small)
          have unlisted : ¬isPinNumber tok = true := by simp [isPinNumber, pin]
          rw [acceptedPins_cons_of_not refused, List.filter_cons_of_neg unlisted, ih later]
      · have refused : ¬IsPin tok := fun accepted => number accepted.1
        have unlisted : ¬isPinNumber tok = true := by simp [isPinNumber, number]
        rw [acceptedPins_cons_of_not refused, List.filter_cons_of_neg unlisted, ih later]

theorem toUInt8_natCast {pin : Nat} (small : pin < MAX_CONTROLLER_BUTTONS) :
    (toUInt8 pin).toNat = pin := by
  have inByte : pin < 36 := small
  rw [toUInt8, UInt8.ofInt]
  simp
  omega

theorem parseBinding_pins {value : CString} (fit : NumbersFit value) {index : Nat}
    (bound : index < MAX_PIN_BY_BUTTONS) :
    (parseBinding value).buttonPin[index].toNat = (documentedPins value)[index]?.getD 0 := by
  rw [parseBinding_buttonPin value bound, bindingPins, acceptedPins_eq fit, List.getElem?_map,
    ← documentedPins]
  cases found : (documentedPins value)[index]? with
  | none => rfl
  | some pin =>
      have listed := List.mem_of_getElem? found
      obtain ⟨tok, member, rfl⟩ := List.mem_map.mp listed
      have small := (List.mem_filter.mp member).2
      simp only [isPinNumber, Bool.and_eq_true, decide_eq_true_eq] at small
      exact toUInt8_natCast small.2

/-! Axes. -/

theorem stringToAnalogConfig_eq (tok : CString) :
    stringToAnalogConfig tok =
      (namedAxis tok).getD { sign := tokenSign tok, bind := .unknown } := by
  rw [stringToAnalogConfig, namedAxis]
  change ControllerAnalogConfig.mk (tokenSign tok)
    ((analogNames.lookup (unsigned tok)).getD .unknown) = _
  cases analogNames.lookup (unsigned tok) with
  | none => rfl
  | some bind => rfl

theorem stringToAnalogConfig_of_axis {tok : CString} {axis : ControllerAnalogConfig}
    (named : namedAxis tok = some axis) : stringToAnalogConfig tok = axis := by
  rw [stringToAnalogConfig_eq, named, Option.getD_some]

theorem stringToAnalogConfig_of_not_axis {tok : CString} (other : ¬isAxis tok = true) :
    stringToAnalogConfig tok = { sign := tokenSign tok, bind := .unknown } := by
  have unnamed : namedAxis tok = none := by simpa [isAxis] using other
  rw [stringToAnalogConfig_eq, unnamed, Option.getD_none]

theorem tolower_of_isDigit {c : Char} (digit : c.isDigit = true) : tolower c = c := by
  have bounds := Char.isDigit_iff_toNat.mp digit
  refine dif_neg ?_
  rintro ⟨atLeast, _⟩
  have large : 'A'.toNat ≤ c.toNat := UInt32.le_iff_toNat_le.mp atLeast
  have nine : '9'.toNat = 57 := rfl
  have first : 'A'.toNat = 65 := rfl
  omega

theorem isAxis_of_isNumber {tok : CString} (number : isNumber tok = true) : isAxis tok = false := by
  obtain ⟨c, rest, rfl, digit, _⟩ := isNumber_cases number
  have apart : ∀ other : Char, other.isDigit = false → c ≠ other := by
    rintro other noDigit rfl
    exact absurd (digit.symm.trans noDigit) (by decide)
  have unlisted : analogNames.lookup (c :: rest.map tolower) = none := by
    rw [List.lookup_eq_none_iff]
    intro pair member
    have letter : ∀ head ∈ pair.1.head?, head.isDigit = false := by
      revert pair
      simp [analogNames]
    cases name : pair.1 with
    | nil => rfl
    | cons head tail =>
        have other := apart head (letter head (by rw [name]; rfl))
        simp [other]
  have whole : unsigned (c :: rest) = c :: rest.map tolower := by
    rw [unsigned, convertToLowercase, List.map_cons, tolower_of_isDigit digit, List.head?_cons]
    refine if_neg ?_
    rintro (minus | plus)
    · exact apart '-' (by decide) (Option.some.inj minus)
    · exact apart '+' (by decide) (Option.some.inj plus)
  rw [isAxis, namedAxis, whole, unlisted]
  rfl

theorem foldl_addToken_analogCfg (tokens : List CString) (binding : Binding) :
    (tokens.foldl Binding.addToken binding).analogCfg =
      (((tokens.filter fun tok => !isNumber tok).getLast?).map stringToAnalogConfig).getD
        binding.analogCfg := by
  induction tokens generalizing binding with
  | nil => rfl
  | cons tok rest ih =>
      rw [List.foldl_cons, ih]
      by_cases number : isNumber tok = true
      · have kept : (binding.addToken tok).analogCfg = binding.analogCfg := by
          rw [Binding.addToken, if_pos number]
          dsimp only
          split
          · split <;> rfl
          · rfl
        rw [List.filter_cons_of_neg (by simp [number]), kept]
      · have taken : (binding.addToken tok).analogCfg = stringToAnalogConfig tok := by
          rw [Binding.addToken, if_neg number]
        rw [List.filter_cons_of_pos (by simp [number]), List.getLast?_cons, taken]
        cases ((rest.filter fun tok => !isNumber tok).getLast?) <;> rfl

theorem parseBinding_analogCfg (value : CString) :
    (parseBinding value).analogCfg =
      ((lastWord value).map stringToAnalogConfig).getD { sign := 0, bind := .unknown } :=
  foldl_addToken_analogCfg (strtok ',' value) {}

/-! The tokens that are left. -/

theorem filter_isAxis_words (tokens : List CString) :
    (tokens.filter fun tok => !isNumber tok).filter isAxis = tokens.filter isAxis := by
  rw [List.filter_filter]
  apply List.filter_congr
  intro tok _
  by_cases number : isNumber tok = true
  · rw [isAxis_of_isNumber number, Bool.false_and]
  · rw [Bool.eq_false_iff.mpr number, Bool.not_false, Bool.and_true]

theorem filter_words_valid (tokens : List CString) :
    (tokens.filter isValidToken).filter (fun tok => !isNumber tok) = tokens.filter isAxis := by
  rw [List.filter_filter]
  apply List.filter_congr
  intro tok _
  by_cases number : isNumber tok = true
  · rw [isAxis_of_isNumber number, number, Bool.not_true, Bool.false_and]
  · rw [isValidToken, isPinNumber, Bool.eq_false_iff.mpr number, Bool.not_false, Bool.true_and,
      Bool.false_and, Bool.false_or]

theorem filter_pins_valid (tokens : List CString) :
    (tokens.filter isValidToken).filter isPinNumber = tokens.filter isPinNumber := by
  rw [List.filter_filter]
  apply List.filter_congr
  intro tok _
  rw [isValidToken]
  cases isPinNumber tok with
  | false => rfl
  | true => rfl

theorem lastWord_withoutInvalid (value : CString) :
    lastWord (withoutInvalid value) = lastAxis value := by
  rw [lastWord, strtok_withoutInvalid, filter_words_valid, lastAxis]

theorem parseBinding_pins_withoutInvalid {value : CString} (fit : NumbersFit value) :
    (parseBinding (withoutInvalid value)).buttonPin = (parseBinding value).buttonPin := by
  have same : bindingPins (withoutInvalid value) = bindingPins value := by
    have kept : ∀ tok ∈ (strtok ',' value).filter isValidToken, isNumber tok = true →
        magnitude 10 tok < 2 ^ 31 := fun tok member => fit tok (List.mem_filter.mp member).1
    rw [bindingPins, bindingPins, strtok_withoutInvalid, acceptedPins_eq kept, acceptedPins_eq fit,
      filter_pins_valid]
  apply Vector.ext
  intro index bound
  rw [parseBinding_buttonPin _ bound, parseBinding_buttonPin _ bound, same]

theorem lastAxis_of_lastWord {value word : CString} (last : lastWord value = some word)
    (axis : isAxis word = true) : lastAxis value = some word := by
  obtain ⟨front, shape⟩ := List.getLast?_eq_some_iff.mp last
  rw [lastAxis, ← filter_isAxis_words, shape, List.filter_append, List.filter_cons_of_pos axis,
    List.filter_nil, List.getLast?_concat]

theorem exists_lastWord {value tok : CString} (last : lastAxis value = some tok) :
    ∃ word, lastWord value = some word := by
  cases found : lastWord value with
  | some word => exact ⟨word, rfl⟩
  | none =>
      have empty := List.getLast?_eq_none_iff.mp found
      rw [lastAxis, ← filter_isAxis_words, empty] at last
      exact absurd last (by simp)

theorem parseBinding_analogCfg_of_word {value word : CString} (last : lastWord value = some word) :
    (parseBinding value).analogCfg = stringToAnalogConfig word := by
  rw [parseBinding_analogCfg, last, Option.map_some, Option.getD_some]

theorem isAxis_of_lastAxis {value tok : CString} (last : lastAxis value = some tok) :
    ∃ axis, namedAxis tok = some axis := by
  have member := List.mem_of_getLast? last
  exact Option.isSome_iff_exists.mp (List.mem_filter.mp member).2

theorem parseBinding_axis {value : CString} (stands : AxisStands value) {tok : CString}
    (last : lastAxis value = some tok) : namedAxis tok = some (parseBinding value).analogCfg := by
  obtain ⟨word, lastOne⟩ := exists_lastWord last
  by_cases axis : isAxis word = true
  · have same := lastAxis_of_lastWord lastOne axis
    obtain rfl := Option.some.inj (last.symm.trans same)
    obtain ⟨named, isNamed⟩ := isAxis_of_lastAxis last
    rw [parseBinding_analogCfg_of_word lastOne, stringToAnalogConfig_of_axis isNamed, isNamed]
  · have silent := (stands tok word last lastOne).resolve_left axis
    rw [parseBinding_analogCfg_of_word lastOne, stringToAnalogConfig_of_not_axis axis, silent]

theorem parseBinding_noAxis {value : CString} (none : lastAxis value = .none) :
    (parseBinding value).analogCfg.bind = .unknown := by
  cases found : lastWord value with
  | none => rw [parseBinding_analogCfg, found, Option.map_none, Option.getD_none]
  | some word =>
      have other : ¬isAxis word = true := by
        intro axis
        rw [lastAxis_of_lastWord found axis] at none
        exact absurd none (by simp)
      rw [parseBinding_analogCfg_of_word found, stringToAnalogConfig_of_not_axis other]

/-- A binding is what the documentation says exactly when no other word takes its axis back. -/
theorem documentedBinding_iff {value : CString} (fit : NumbersFit value) :
    DocumentedBinding value ↔ AxisStands value := by
  constructor
  · intro documented tok word last lastOne
    by_cases axis : isAxis word = true
    · exact .inl axis
    · right
      rw [documented.axis tok last, parseBinding_analogCfg_of_word lastOne,
        stringToAnalogConfig_of_not_axis axis]
  · intro stands
    refine ⟨fun index bound => parseBinding_pins fit bound, fun tok => parseBinding_axis stands,
      parseBinding_noAxis, parseBinding_pins_withoutInvalid fit, ?_⟩
    cases last : lastAxis value with
    | none =>
        rw [parseBinding_noAxis last, parseBinding_analogCfg, lastWord_withoutInvalid, last,
          Option.map_none, Option.getD_none]
    | some tok =>
        have named := parseBinding_axis stands last
        rw [parseBinding_analogCfg_of_word ((lastWord_withoutInvalid value).trans last),
          stringToAnalogConfig_of_axis named]

-- Two pins, an axis, a number too large and an unknown name before the axis.
theorem documentedBinding_mixed : DocumentedBinding "13,foo,99,2,+x".toList := by
  refine (documentedBinding_iff ?_).mpr ?_
  · rw [NumbersFit]
    decide
  · intro tok word _ last
    left
    obtain rfl := Option.some.inj last
    decide

-- An unknown name behind an axis takes the axis away.
theorem unknown_token_resets_axis : ¬∀ value, NumbersFit value → DocumentedBinding value := by
  intro always
  have documented := always "x,foo".toList (by rw [NumbersFit]; decide)
  exact absurd (documented.axis "x".toList (by decide)) (by decide)

end SysCon.ConfigHandler
