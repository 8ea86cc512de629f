import SysCon.Sysmodule.IniTexts

/-!
What the parser accepts. A file is read as a document: its headers, pairs and
continuations in order, without blank lines, comments and bad lines. The
documents of all files are well-formed, and a well-formed document, written out
again, is read back as it was.
-/

namespace SysCon.Ini

open CLibrary

def Reading.significant : Reading → Bool
  | .header _ | .pair _ _ | .continuation _ => true
  | .nothing | .bad => false

def Reading.continues : Reading → Bool
  | .continuation _ => true
  | .header _ | .pair _ _ | .nothing | .bad => false

/-- The name that a continuation in the next line belongs to. -/
def Reading.nextName (prevName : CString) : Reading → CString
  | .header _ => []
  | .pair name _ => name.take (MAX_NAME - 1)
  | .continuation _ | .nothing | .bad => prevName

def readings : (prevName : CString) → (lineno : Nat) → List CString → List Reading
  | _, _, [] => []
  | prevName, lineno, line :: later =>
      let reading := readingOf prevName lineno line
      reading :: readings (reading.nextName prevName) (lineno + 1) later

def document (file : CString) : List Reading :=
  (readings [] 1 (fileLines file)).filter Reading.significant

def Reading.line : Reading → CString
  | .header sectionName => '[' :: (sectionName ++ [']'])
  | .pair name value => name ++ '=' :: value
  | .continuation value => ' ' :: value
  | .nothing | .bad => []

-- The first line is left blank: a name in it could be taken for a byte-order mark.
def documentFile (document : List Reading) : CString :=
  joinLines ([] :: document.map Reading.line)

structure HeaderText (sectionName : CString) : Prop where
  plain : Plain sectionName
  uncommented : Uncommented sectionName
  unclosed : ']' ∉ sectionName

structure PairText (name value : CString) : Prop where
  plainName : Plain name
  trimmedName : Trimmed name
  uncommentedName : Uncommented name
  unassigned : '=' ∉ name ∧ ':' ∉ name
  start : ∀ c ∈ name.head?, c ≠ ';' ∧ c ≠ '#' ∧ c ≠ '['
  plainValue : Plain value
  trimmedValue : Trimmed value
  uncommentedValue : Uncommented value

structure ContinuationText (value : CString) : Prop where
  plain : Plain value
  trimmed : Trimmed value
  filled : value ≠ []
  start : ∀ c ∈ value.head?, c ≠ ';' ∧ c ≠ '#'

def Reading.WellFormed : Reading → Prop
  | .header sectionName => HeaderText sectionName
  | .pair name value => PairText name value
  | .continuation value => ContinuationText value
  | .nothing | .bad => False

/-- Well-formed readings whose lines fit; a continuation stands behind a name. -/
def WellFormed : (prevName : CString) → List Reading → Prop
  | _, [] => True
  | prevName, reading :: later =>
      reading.WellFormed ∧ Fits reading.line ∧ (reading.continues = true → prevName ≠ []) ∧
        WellFormed (reading.nextName prevName) later

/-! A well-formed reading is read back from its line. -/

theorem readingOf_text (prevName : CString) {lineno : Nat} (later : lineno ≠ 1) {text : CString}
    (noNul : '\x00' ∉ text) (trimmed : Trimmed text) {first : Char}
    (starts : text.head? = some first) (noComment : ¬(first = ';' ∨ first = '#')) :
    readingOf prevName lineno text =
      if first = '[' then readHeader text else readPair text := by
  obtain ⟨rest, rfl⟩ := List.head?_eq_some_iff.mp starts
  have shown : (first :: rest).takeWhile (· ≠ '\x00') = first :: rest := by
    refine List.takeWhile_eq_self_iff.mpr ?_
    intro c member
    exact decide_eq_true (fun same => noNul (same ▸ member))
  have unmarked : skipBom lineno (first :: rest) = first :: rest :=
    if_neg (fun both => later both.1)
  unfold readingOf
  simp only [shown, unmarked, rstrip_eq_self trimmed.2, lskip_eq_self trimmed.1]
  rw [if_neg noComment, if_neg (by simp)]

theorem HeaderText.readBack {sectionName : CString} (text : HeaderText sectionName)
    (prevName : CString) {lineno : Nat} (later : lineno ≠ 1) :
    readingOf prevName lineno (Reading.header sectionName).line = .header sectionName := by
  have passed : Passed [']'] false sectionName := by
    refine passed_iff.mpr ⟨?_, text.uncommented, by simp⟩
    intro c member closes
    rw [List.mem_singleton.mp closes] at member
    exact text.unclosed member
  have noNul : '\x00' ∉ '[' :: (sectionName ++ [']']) := by
    simp [text.plain.2]
  have trimmed : Trimmed ('[' :: (sectionName ++ [']'])) := by
    constructor
    · simp [isspace]
    · rw [← List.cons_append, List.getLast?_concat]
      simp [isspace]
  rw [Reading.line, readingOf_text prevName later noNul trimmed rfl (by decide), if_pos rfl]
  unfold readHeader
  simp only [List.tail_cons, passed.stop (List.mem_singleton_self ']')]
  simp

theorem PairText.readBack {name value : CString} (text : PairText name value)
    (prevName : CString) {lineno : Nat} (later : lineno ≠ 1) :
    readingOf prevName lineno (Reading.pair name value).line = .pair name value := by
  have passedName : Passed ['=', ':'] false name := by
    refine passed_iff.mpr ⟨?_, text.uncommentedName, by simp⟩
    intro c member assigns
    rcases List.mem_cons.mp assigns with rfl | colon
    · exact text.unassigned.1 member
    · rw [List.mem_singleton.mp colon] at member
      exact text.unassigned.2 member
  have passedValue : Passed [] false value :=
    passed_iff.mpr ⟨by simp, text.uncommentedValue, by simp⟩
  have noNul : '\x00' ∉ name ++ '=' :: value := by
    simp [text.plainName.2, text.plainValue.2]
  have trimmed : Trimmed (name ++ '=' :: value) :=
    text.trimmedName.append text.trimmedValue (by decide)
  have starts : ∃ first, (name ++ '=' :: value).head? = some first ∧ first ≠ ';' ∧ first ≠ '#' ∧
      first ≠ '[' := by
    cases split : name with
    | nil => exact ⟨'=', rfl, by decide, by decide, by decide⟩
    | cons first rest => exact ⟨first, rfl, text.start first (by rw [split]; rfl)⟩
  obtain ⟨first, starts, semicolon, hash, bracket⟩ := starts
  rw [Reading.line, readingOf_text prevName later noNul trimmed starts (by simp [semicolon, hash]),
    if_neg bracket]
  unfold readPair
  simp only [passedName.stop (show '=' ∈ ['=', ':'] by decide)]
  have read : valueOf ('=' :: value) = value := by
    rw [valueOf, List.tail_cons,
      show findCharsOrComment [] false value = (value, []) from passedValue, lskip_eq_self
      text.trimmedValue.1, rstrip_eq_self text.trimmedValue.2]
  simp [read, rstrip_eq_self text.trimmedName.2]

theorem ContinuationText.readBack {value prevName : CString} (text : ContinuationText value)
    (named : prevName ≠ []) {lineno : Nat} (later : lineno ≠ 1) :
    readingOf prevName lineno (Reading.continuation value).line = .continuation value := by
  obtain ⟨first, rest, rfl⟩ := List.exists_cons_of_ne_nil text.filled
  have noNul : '\x00' ∉ ' ' :: first :: rest := by
    have behind := text.plain.2
    simp only [List.mem_cons, not_or] at behind ⊢
    exact ⟨by decide, behind⟩
  have shown : (' ' :: first :: rest).takeWhile (· ≠ '\x00') = ' ' :: first :: rest := by
    refine List.takeWhile_eq_self_iff.mpr ?_
    intro c member
    exact decide_eq_true (fun same => noNul (same ▸ member))
  have unmarked : skipBom lineno (' ' :: first :: rest) = ' ' :: first :: rest :=
    if_neg (fun both => later both.1)
  have stripped : rstrip (' ' :: first :: rest) = ' ' :: first :: rest := by
    refine rstrip_eq_self ?_
    rw [List.getLast?_cons_cons]
    exact text.trimmed.2
  have start : lskip (' ' :: first :: rest) = first :: rest := by
    rw [lskip, List.dropWhile_cons_of_pos (by decide)]
    exact lskip_eq_self text.trimmed.1
  obtain ⟨semicolon, hash⟩ := text.start first rfl
  unfold readingOf
  simp only [Reading.line, shown, unmarked, stripped, start]
  rw [if_neg (by simp [semicolon, hash]), if_pos ⟨named, Or.inl (by simp)⟩]

theorem Reading.WellFormed.readBack {reading : Reading} (wellFormed : reading.WellFormed)
    {prevName : CString} (named : reading.continues = true → prevName ≠ []) {lineno : Nat}
    (later : lineno ≠ 1) : readingOf prevName lineno reading.line = reading := by
  cases reading with
  | header sectionName => exact HeaderText.readBack wellFormed prevName later
  | pair name value => exact PairText.readBack wellFormed prevName later
  | continuation value => exact ContinuationText.readBack wellFormed (named rfl) later
  | nothing => exact wellFormed.elim
  | bad => exact wellFormed.elim

/-! What is read from a line is well-formed, and its line is no longer. -/

/-- What the parser looks at of a line. -/
theorem start_shown {line : CString} (oneLine : '\n' ∉ line) (lineno : Nat) :
    let start := lskip (rstrip (skipBom lineno (line.takeWhile (· ≠ '\x00'))))
    Plain start ∧ start.length ≤ line.length := by
  intro start
  have shown : (line.takeWhile (· ≠ '\x00')).Sublist line := List.takeWhile_sublist _
  have unmarked : (skipBom lineno (line.takeWhile (· ≠ '\x00'))).Sublist
      (line.takeWhile (· ≠ '\x00')) := by
    unfold skipBom
    split
    · exact List.drop_sublist _ _
    · exact List.Sublist.refl _
  have inside : start.Sublist (line.takeWhile (· ≠ '\x00')) :=
    ((lskip_behind _).sublist.trans (rstrip_before _).sublist).trans unmarked
  refine ⟨⟨?_, ?_⟩, (inside.trans shown).length_le⟩
  · exact fun member => oneLine (shown.subset (inside.subset member))
  · intro member
    have visible := List.mem_takeWhile_imp (inside.subset member)
    simp at visible

theorem Plain.of_sublist {text whole : CString} (plain : Plain whole)
    (inside : text.Sublist whole) : Plain text :=
  ⟨fun member => plain.1 (inside.subset member), fun member => plain.2 (inside.subset member)⟩

theorem before_sublist (chars : CString) (wasSpace : Bool) (text : CString) :
    (findCharsOrComment chars wasSpace text).1.Sublist text := by
  conv_rhs => rw [← findCharsOrComment_parts chars wasSpace text]
  exact List.sublist_append_left _ _

theorem readHeader_wellFormed {start : CString} (bracket : start.head? = some '[')
    (plain : Plain start) (read : (readHeader start).significant = true) :
    (readHeader start).WellFormed ∧ (readHeader start).line.length ≤ start.length := by
  obtain ⟨rest, rfl⟩ := List.head?_eq_some_iff.mp bracket
  have parts := findCharsOrComment_parts [']'] false ('[' :: rest).tail
  have passed := passed_iff.mp (Passed.before [']'] false ('[' :: rest).tail)
  have inside := before_sublist [']'] false ('[' :: rest).tail
  unfold readHeader at read ⊢
  generalize findCharsOrComment [']'] false ('[' :: rest).tail = split at *
  obtain ⟨header, found⟩ := split
  simp only [List.tail_cons] at *
  by_cases closed : found.head? = some ']'
  · rw [if_pos closed]
    obtain ⟨behind, rfl⟩ := List.head?_eq_some_iff.mp closed
    refine ⟨⟨plain.of_sublist (inside.trans (List.sublist_cons_self _ _)), passed.2.1, ?_⟩, ?_⟩
    · intro member
      exact passed.1 _ member (List.mem_singleton_self _)
    · have length := congrArg List.length parts
      simp only [Reading.line, List.length_cons, List.length_append, List.length_nil] at length ⊢
      omega
  · rw [if_neg closed] at read
    exact Bool.noConfusion read

theorem valueOf_text (found : CString) (plain : Plain found) :
    Plain (valueOf found) ∧ Trimmed (valueOf found) ∧ Uncommented (valueOf found) ∧
      (valueOf found).length ≤ found.tail.length := by
  have inside : (valueOf found).Sublist found.tail :=
    ((rstrip_before _).sublist.trans (lskip_behind _).sublist).trans (before_sublist _ _ _)
  have uncommented := (passed_iff.mp (Passed.before [] false found.tail)).2.1
  refine ⟨plain.of_sublist (inside.trans (List.tail_sublist _)),
    trimmed_rstrip_of_head (head_lskip _), ?_, inside.length_le⟩
  obtain ⟨_, skips⟩ := lskip_behind (findCharsOrComment [] false found.tail).1
  obtain ⟨_, strips⟩ := rstrip_before (lskip (findCharsOrComment [] false found.tail).1)
  exact (uncommented.skipped skips).stripped strips

theorem readPair_wellFormed {start : CString} (plain : Plain start) (trimmed : Trimmed start)
    (begins : ∀ c ∈ start.head?, c ≠ ';' ∧ c ≠ '#' ∧ c ≠ '[')
    (read : (readPair start).significant = true) :
    (readPair start).WellFormed ∧ (readPair start).line.length ≤ start.length := by
  have parts := findCharsOrComment_parts ['=', ':'] false start
  have passed := passed_iff.mp (Passed.before ['=', ':'] false start)
  have inside := before_sublist ['=', ':'] false start
  unfold readPair at read ⊢
  generalize findCharsOrComment ['=', ':'] false start = split at *
  obtain ⟨before, found⟩ := split
  simp only at *
  by_cases assigns : found.head? = some '=' ∨ found.head? = some ':'
  · rw [if_pos assigns]
    obtain ⟨separator, behind, rfl⟩ : ∃ separator behind, found = separator :: behind := by
      rcases assigns with equals | colon
      · exact ⟨_, List.head?_eq_some_iff.mp equals⟩
      · exact ⟨_, List.head?_eq_some_iff.mp colon⟩
    have begun : ∀ c ∈ before.head?, c ∈ start.head? := by
      intro c first
      rw [← parts, List.head?_append, first]
      rfl
    have nameBegins : ∀ c ∈ (rstrip before).head?, c ∈ before.head? := by
      intro c first
      obtain ⟨dropped, whole⟩ := rstrip_before before
      rw [← whole, List.head?_append, first]
      rfl
    have behindPlain : Plain (separator :: behind) := by
      refine plain.of_sublist ?_
      rw [← parts]
      exact List.sublist_append_right _ _
    obtain ⟨plainValue, trimmedValue, uncommentedValue, valueLength⟩ :=
      valueOf_text _ behindPlain
    have nameInside : (rstrip before).Sublist before := (rstrip_before before).sublist
    obtain ⟨_, strips⟩ := rstrip_before before
    refine ⟨?_, ?_⟩
    · refine ⟨plain.of_sublist (nameInside.trans inside), ?_, passed.2.1.stripped strips,
        ⟨?_, ?_⟩, ?_, plainValue, trimmedValue, uncommentedValue⟩
      · exact trimmed_rstrip_of_head fun c first => trimmed.1 c (begun c first)
      · exact fun member => passed.1 _ (nameInside.subset member) (by decide)
      · exact fun member => passed.1 _ (nameInside.subset member) (by decide)
      · exact fun c first => begins c (begun c (nameBegins c first))
    · have length := congrArg List.length parts
      have nameLength := nameInside.length_le
      simp only [Reading.line, List.length_cons, List.length_append, List.tail_cons] at *
      omega
  · rw [if_neg assigns] at read
    exact Bool.noConfusion read

/-- A continuation stands behind a blank or a byte-order mark. -/
theorem continuation_shorter (lineno : Nat) (shown : CString)
    (moved :
      (rstrip (skipBom lineno shown)).length ≠ (lskip (rstrip (skipBom lineno shown))).length ∨
        skipBom lineno shown ≠ shown) :
    (lskip (rstrip (skipBom lineno shown))).length < shown.length := by
  have stripped := (rstrip_before (skipBom lineno shown)).length_le
  have skipped := (lskip_behind (rstrip (skipBom lineno shown))).length_le
  by_cases marked : lineno = 1 ∧ shown.take 3 = ['\xef', '\xbb', '\xbf']
  · have length := congrArg List.length marked.2
    simp only [List.length_take, List.length_cons, List.length_nil] at length
    have dropped : (skipBom lineno shown).length = shown.length - 3 := by
      rw [skipBom, if_pos marked, List.length_drop]
    omega
  · have unmarked : skipBom lineno shown = shown := if_neg marked
    rw [unmarked] at moved stripped skipped ⊢
    rcases moved with indented | other
    · omega
    · exact absurd rfl other

structure ReadFrom (prevName line : CString) (reading : Reading) : Prop where
  wellFormed : reading.WellFormed
  shorter : reading.line.length ≤ line.length
  named : reading.continues = true → prevName ≠ []

theorem readingOf_wellFormed (prevName : CString) (lineno : Nat) {line : CString}
    (oneLine : '\n' ∉ line)
    (read : (readingOf prevName lineno line).significant = true) :
    ReadFrom prevName line (readingOf prevName lineno line) := by
  obtain ⟨plain, short⟩ := start_shown oneLine lineno
  have trimmed := trimmed_lskip_rstrip (skipBom lineno (line.takeWhile (· ≠ '\x00')))
  have cut : (line.takeWhile (· ≠ '\x00')).length ≤ line.length :=
    (List.takeWhile_sublist _).length_le
  have shorter := continuation_shorter lineno (line.takeWhile (· ≠ '\x00'))
  have named {start : CString} {reading : Reading} (pairOrHeader : reading.continues = false)
      (wellFormed : reading.WellFormed ∧ reading.line.length ≤ start.length)
      (inside : start.length ≤ line.length) : ReadFrom prevName line reading := by
    refine ⟨wellFormed.1, wellFormed.2.trans inside, ?_⟩
    intro continues
    rw [pairOrHeader] at continues
    exact Bool.noConfusion continues
  unfold readingOf at read ⊢
  simp only at read plain short trimmed ⊢
  generalize rstrip (skipBom lineno (line.takeWhile (· ≠ '\x00'))) = stripped at *
  cases starts : lskip stripped with
  | nil =>
      simp only [starts] at read
      exact Bool.noConfusion read
  | cons first rest =>
      rw [starts] at plain short trimmed shorter
      simp only [starts] at read ⊢
      by_cases comment : first = ';' ∨ first = '#'
      · rw [if_pos comment] at read
        exact Bool.noConfusion read
      · rw [if_neg comment] at read ⊢
        rw [not_or] at comment
        by_cases continues : prevName ≠ [] ∧ (stripped.length ≠ (first :: rest).length ∨
            skipBom lineno (line.takeWhile (· ≠ '\x00')) ≠ line.takeWhile (· ≠ '\x00'))
        · rw [if_pos continues]
          refine ⟨⟨plain, trimmed, List.cons_ne_nil _ _, ?_⟩, ?_, fun _ => continues.1⟩
          · rintro c ⟨⟩
            exact comment
          · exact (Nat.succ_le_of_lt (shorter continues.2)).trans cut
        · rw [if_neg continues] at read ⊢
          by_cases header : first = '['
          · subst header
            rw [if_pos rfl] at read ⊢
            refine named ?_ (readHeader_wellFormed rfl plain read) short
            unfold readHeader
            simp only
            split <;> rfl
          · rw [if_neg header] at read ⊢
            refine named ?_ (readPair_wellFormed plain trimmed ?_ read) short
            · unfold readPair
              simp only
              split <;> rfl
            · rintro c ⟨⟩
              exact ⟨comment.1, comment.2, header⟩

/-! Whole documents. -/

theorem nextName_of_insignificant {reading : Reading} (skipped : reading.significant = false)
    (prevName : CString) : reading.nextName prevName = prevName := by
  cases reading with
  | nothing => rfl
  | bad => rfl
  | _ => exact Bool.noConfusion skipped

theorem readings_wellFormed {lines : List CString} (whole : ∀ line ∈ lines, '\n' ∉ line)
    (fit : ∀ line ∈ lines, Fits line) (prevName : CString) (lineno : Nat) :
    WellFormed prevName ((readings prevName lineno lines).filter Reading.significant) := by
  induction lines generalizing prevName lineno with
  | nil => trivial
  | cons line later ih =>
      have behind := ih (fun other member => whole other (List.mem_cons_of_mem _ member))
        (fun other member => fit other (List.mem_cons_of_mem _ member))
        ((readingOf prevName lineno line).nextName prevName) (lineno + 1)
      simp only [readings]
      cases read : (readingOf prevName lineno line).significant with
      | false =>
          rw [List.filter_cons_of_neg (by simp [read])]
          rwa [nextName_of_insignificant read] at behind ⊢
      | true =>
          have source := readingOf_wellFormed prevName lineno (whole line List.mem_cons_self) read
          rw [List.filter_cons_of_pos read]
          exact ⟨source.wellFormed, Nat.lt_of_le_of_lt source.shorter (fit line List.mem_cons_self),
            source.named, behind⟩

theorem readLine_fits {num : Nat} {file line left : CString}
    (read : readLine num file = some (line, left)) : '\n' ∉ line ∧ line.length < num := by
  induction file generalizing num line left with
  | nil => cases num <;> simp [readLine] at read
  | cons c rest ih =>
      cases num with
      | zero => simp [readLine] at read
      | succ num =>
          rw [readLine] at read
          by_cases ends : c = '\n'
          · rw [if_pos ends] at read
            simp only [Option.some.injEq, Prod.mk.injEq] at read
            rw [← read.1]
            exact ⟨List.not_mem_nil, Nat.succ_pos _⟩
          · rw [if_neg ends, Option.map_eq_some_iff] at read
            obtain ⟨⟨shorter, after⟩, readRest, same⟩ := read
            simp only [Prod.mk.injEq] at same
            obtain ⟨oneLine, short⟩ := ih readRest
            rw [← same.1]
            refine ⟨?_, Nat.succ_lt_succ short⟩
            rw [List.mem_cons, not_or]
            exact ⟨Ne.symm ends, oneLine⟩

theorem mem_linesOf {fuel : Nat} {file line : CString} (member : line ∈ linesOf fuel file) :
    '\n' ∉ line ∧ Fits line := by
  induction fuel generalizing file with
  | zero => simp [linesOf] at member
  | succ fuel ih =>
      unfold linesOf at member
      cases read : readLine INI_MAX_LINE file with
      | none => simp [read] at member
      | some answer =>
          obtain ⟨first, left⟩ := answer
          simp only [read] at member
          rcases List.mem_cons.mp member with rfl | later
          · exact readLine_fits read
          · exact ih later

theorem document_wellFormed (file : CString) : WellFormed [] (document file) :=
  readings_wellFormed (fun _ member => (mem_linesOf member).1)
    (fun _ member => (mem_linesOf member).2) [] 1

theorem Reading.WellFormed.oneLine {reading : Reading} (wellFormed : reading.WellFormed) :
    '\n' ∉ reading.line := by
  cases reading with
  | header sectionName =>
      have text : HeaderText sectionName := wellFormed
      simp [Reading.line, text.plain.1]
  | pair name value =>
      have text : PairText name value := wellFormed
      simp [Reading.line, text.plainName.1, text.plainValue.1]
  | continuation value =>
      have text : ContinuationText value := wellFormed
      simp [Reading.line, text.plain.1]
  | nothing => exact wellFormed.elim
  | bad => exact wellFormed.elim

theorem WellFormed.lines {prevName : CString} {written : List Reading}
    (wellFormed : WellFormed prevName written) :
    ∀ line ∈ written.map Reading.line, '\n' ∉ line ∧ Fits line := by
  induction written generalizing prevName with
  | nil => simp
  | cons reading later ih =>
      obtain ⟨here, fits, _, behind⟩ := wellFormed
      rw [List.map_cons]
      exact List.forall_mem_cons.mpr ⟨⟨here.oneLine, fits⟩, ih behind⟩

theorem WellFormed.significant {prevName : CString} {written : List Reading}
    (wellFormed : WellFormed prevName written) :
    ∀ reading ∈ written, reading.significant = true := by
  induction written generalizing prevName with
  | nil => simp
  | cons reading later ih =>
      obtain ⟨here, _, _, behind⟩ := wellFormed
      refine List.forall_mem_cons.mpr ⟨?_, ih behind⟩
      cases reading with
      | nothing => exact here.elim
      | bad => exact here.elim
      | _ => rfl

theorem WellFormed.readings {prevName : CString} {written : List Reading}
    (wellFormed : WellFormed prevName written) {lineno : Nat} (later : 1 < lineno) :
    Ini.readings prevName lineno (written.map Reading.line) = written := by
  induction written generalizing prevName lineno with
  | nil => rfl
  | cons reading rest ih =>
      obtain ⟨here, _, named, behind⟩ := wellFormed
      simp only [List.map_cons, Ini.readings, here.readBack named (Nat.ne_of_gt later)]
      rw [ih behind (Nat.lt_succ_of_lt later)]

theorem fileLines_documentFile {written : List Reading} (wellFormed : WellFormed [] written) :
    fileLines (documentFile written) = [] :: written.map Reading.line := by
  have lines := wellFormed.lines
  have whole : ∀ line ∈ [] :: written.map Reading.line, '\n' ∉ line :=
    List.forall_mem_cons.mpr ⟨List.not_mem_nil, fun line member => (lines line member).1⟩
  have fit : ∀ line ∈ [] :: written.map Reading.line, Fits line :=
    List.forall_mem_cons.mpr ⟨by decide, fun line member => (lines line member).2⟩
  have read := fileLines_joinLines whole fit []
  rw [List.append_nil] at read
  rw [documentFile, read]
  exact List.append_nil _

theorem readings_documentFile {written : List Reading} (wellFormed : WellFormed [] written) :
    readings [] 1 (fileLines (documentFile written)) = .nothing :: written := by
  rw [fileLines_documentFile wellFormed]
  exact congrArg (Reading.nothing :: ·) (wellFormed.readings (Nat.lt_succ_self 1))

theorem filter_significant {prevName : CString} {written : List Reading}
    (wellFormed : WellFormed prevName written) :
    written.filter Reading.significant = written :=
  List.filter_eq_self.mpr wellFormed.significant

theorem document_documentFile {written : List Reading} (wellFormed : WellFormed [] written) :
    document (documentFile written) = written := by
  rw [document, readings_documentFile wellFormed,
    List.filter_cons_of_neg (by simp [Reading.significant]), filter_significant wellFormed]

end SysCon.Ini
