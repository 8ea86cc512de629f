import SysCon.Sysmodule.IniDocuments

/-!
What a parse makes of a file is what it makes of its document. So the entries of
a file are those that its document denotes, and the normal form of a file, its
document written out, means to every handler what the file means.
-/

namespace SysCon.Ini

open CLibrary

def normalForm (file : CString) : CString := documentFile (document file)

section Meaning

variable {user : Type} {handler : Handler user}

structure SameMeaning (first second : ParseState user) : Prop where
  sectionName : first.sectionName = second.sectionName
  prevName : first.prevName = second.prevName
  data : first.data = second.data

namespace SameMeaning

variable {first second : ParseState user}

theorem handle (same : SameMeaning first second) (name value : CString) :
    SameMeaning (first.handle handler name value) (second.handle handler name value) := by
  unfold ParseState.handle
  rw [same.data, same.sectionName]
  cases handler second.data second.sectionName name value with
  | mk result data =>
      by_cases failed : result = 0
      · simp only [if_pos failed]
        exact ⟨rfl, same.prevName, rfl⟩
      · simp only [if_neg failed]
        exact ⟨rfl, same.prevName, rfl⟩

theorem accept (handler : Handler user) (same : SameMeaning first second) (reading : Reading) :
    SameMeaning (first.accept handler reading) (second.accept handler reading) := by
  cases reading with
  | nothing => exact same
  | bad => exact ⟨same.sectionName, same.prevName, same.data⟩
  | header sectionName => exact ⟨rfl, rfl, same.data⟩
  | continuation value =>
      simp only [ParseState.accept, same.prevName]
      exact same.handle _ _
  | pair name value =>
      have named : SameMeaning { first with prevName := name.take (MAX_NAME - 1) }
          { second with prevName := name.take (MAX_NAME - 1) } :=
        ⟨same.sectionName, rfl, same.data⟩
      exact named.handle _ _

theorem skip (handler : Handler user) (same : SameMeaning first second) {reading : Reading}
    (skipped : reading.significant = false) :
    SameMeaning (first.accept handler reading) second := by
  cases reading with
  | nothing => exact same
  | bad => exact ⟨same.sectionName, same.prevName, same.data⟩
  | _ => exact Bool.noConfusion skipped

end SameMeaning

theorem handle_prevName (state : ParseState user) (name value : CString) :
    (state.handle handler name value).prevName = state.prevName := by
  unfold ParseState.handle
  simp only
  split <;> rfl

theorem accept_prevName (state : ParseState user) (reading : Reading) :
    (state.accept handler reading).prevName = reading.nextName state.prevName := by
  cases reading with
  | pair name value => exact handle_prevName _ _ _
  | continuation value => exact handle_prevName _ _ _
  | _ => rfl

theorem handle_lineno (state : ParseState user) (name value : CString) :
    (state.handle handler name value).lineno = state.lineno := by
  unfold ParseState.handle
  simp only
  split <;> rfl

theorem accept_lineno (state : ParseState user) (reading : Reading) :
    (state.accept handler reading).lineno = state.lineno := by
  cases reading with
  | pair name value => exact handle_lineno _ _ _
  | continuation value => exact handle_lineno _ _ _
  | _ => rfl

theorem foldl_parseLine (lines : List CString) (state : ParseState user)
    {other : ParseState user} (same : SameMeaning state other) :
    SameMeaning (lines.foldl (parseLine handler) state)
      (((readings state.prevName (state.lineno + 1) lines).filter Reading.significant).foldl
        (·.accept handler ·) other) := by
  induction lines generalizing state other with
  | nil => exact same
  | cons line later ih =>
      have counted : SameMeaning { state with lineno := state.lineno + 1 } other :=
        ⟨same.sectionName, same.prevName, same.data⟩
      rw [List.foldl_cons, parseLine_eq, readings]
      cases read : (readingOf state.prevName (state.lineno + 1) line).significant with
      | false =>
          have after := ih _ (counted.skip handler read)
          rw [accept_prevName, accept_lineno] at after
          rw [List.filter_cons_of_neg (by simp [read])]
          exact after
      | true =>
          have after := ih _ (counted.accept handler
            (readingOf state.prevName (state.lineno + 1) line))
          rw [accept_prevName, accept_lineno] at after
          rw [List.filter_cons_of_pos read, List.foldl_cons]
          exact after

theorem iniParseStream_document (handler : Handler user) (file : CString) (data : user) :
    (iniParseStream handler file data).2 =
      ((document file).foldl (·.accept handler ·) ({ data } : ParseState user)).data := by
  unfold iniParseStream
  rw [parseLoop_eq_foldl]
  exact (foldl_parseLine (fileLines file) { data } ⟨rfl, rfl, rfl⟩).data

theorem recordEntry_error (state : ParseState (List Entry)) {reading : Reading}
    (good : reading ≠ .bad) : (state.accept recordEntry reading).error = state.error := by
  cases reading with
  | bad => exact absurd rfl good
  | _ => rfl

/-- The number of the first bad line, 0 without one. -/
def firstBad : (lineno : Nat) → List Reading → Nat
  | _, [] => 0
  | lineno, reading :: later =>
      if reading = .bad then lineno else firstBad (lineno + 1) later

theorem foldl_firstBad (lines : List CString) (state : ParseState (List Entry))
    (clean : state.error = 0) :
    (lines.foldl (parseLine recordEntry) state).error =
      firstBad (state.lineno + 1) (readings state.prevName (state.lineno + 1) lines) := by
  induction lines generalizing state with
  | nil => exact clean
  | cons line later ih =>
      rw [List.foldl_cons, parseLine_eq, readings, firstBad]
      by_cases bad : readingOf state.prevName (state.lineno + 1) line = .bad
      · rw [if_pos bad, bad]
        have failed : (({ state with lineno := state.lineno + 1 } :
            ParseState (List Entry)).accept recordEntry .bad).error = state.lineno + 1 :=
          if_pos clean
        rw [foldl_error recordEntry later (by rw [failed]; exact Nat.succ_ne_zero _), failed]
      · rw [if_neg bad]
        let counted := { state with lineno := state.lineno + 1 }
        have here := (recordEntry_error counted bad).trans clean
        have behind := ih _ here
        rwa [accept_prevName, accept_lineno] at behind

theorem firstError_firstBad (file : CString) :
    firstError file = firstBad 1 (readings [] 1 (fileLines file)) := by
  rw [firstError_eq]
  exact foldl_firstBad (fileLines file) { data := [] } rfl

theorem firstBad_of_good {written : List Reading} (good : ∀ reading ∈ written, reading ≠ .bad)
    (lineno : Nat) : firstBad lineno written = 0 := by
  induction written generalizing lineno with
  | nil => rfl
  | cons reading later ih =>
      obtain ⟨here, behind⟩ := List.forall_mem_cons.mp good
      rw [firstBad, if_neg here, ih behind]

theorem WellFormed.good {prevName : CString} {written : List Reading}
    (wellFormed : WellFormed prevName written) : ∀ reading ∈ written, reading ≠ .bad := by
  rintro reading member rfl
  exact Bool.noConfusion (wellFormed.significant _ member)

theorem documentFile_firstError {written : List Reading} (wellFormed : WellFormed [] written) :
    firstError (documentFile written) = 0 := by
  rw [firstError_firstBad, readings_documentFile wellFormed]
  exact firstBad_of_good (List.forall_mem_cons.mpr ⟨by simp, wellFormed.good⟩) 1

theorem normalForm_firstError (file : CString) : firstError (normalForm file) = 0 :=
  documentFile_firstError (document_wellFormed file)

theorem normalForm_data (handler : Handler user) (file : CString) (data : user) :
    (iniParseStream handler (normalForm file) data).2 = (iniParseStream handler file data).2 := by
  have same : document (normalForm file) = document file :=
    document_documentFile (document_wellFormed file)
  rw [iniParseStream_document, iniParseStream_document, same]

theorem normalForm_normalForm (file : CString) :
    normalForm (normalForm file) = normalForm file := by
  rw [normalForm, normalForm, document_documentFile (document_wellFormed file)]

/-- The normal form of a file drops its blank lines, comments, bad lines and surplus blanks. Any
handler makes of it what it makes of the file. It has no bad line, so a handler that accepts what it
is given reads it without an error, and it is its own normal form. -/
theorem normalForm_parse (handler : Handler user) (file : CString) (data : user) :
    (iniParseStream handler (normalForm file) data).2 = (iniParseStream handler file data).2 ∧
      firstError (normalForm file) = 0 ∧
      (handler.succeeds → (iniParseStream handler (normalForm file) data).1 = 0) ∧
      normalForm (normalForm file) = normalForm file := by
  refine ⟨normalForm_data handler file data, normalForm_firstError file, ?_,
    normalForm_normalForm file⟩
  intro succeeds
  rw [iniParseStream_eq succeeds]
  exact normalForm_firstError file

end Meaning

theorem recordEntry_reads_normalForm :
    (iniParseStream recordEntry (normalForm "bad\n a = 1 ; x\n".toList) []).1 = 0 :=
  (normalForm_parse recordEntry _ []).2.2.1 fun _ _ _ _ => Int.one_ne_zero

example : normalForm "; pads\n[ pad ] ; x\n a = 1 ; y\n  2\nbad\n".toList =
    "\n[ pad ]\na=1\n 2\n".toList := by decide

/-! The entries of a file are those that its document denotes. -/

/-- The entries of a document. A section name is cut to its buffer, and so is the name of a pair
where a continuation repeats it. -/
def denoted : (sectionName prevName : CString) → List Reading → List Entry
  | _, _, [] => []
  | _, _, .header name :: later => denoted (name.take (MAX_SECTION - 1)) [] later
  | sectionName, _, .pair name value :: later =>
      ⟨sectionName, name, value⟩ :: denoted sectionName (name.take (MAX_NAME - 1)) later
  | sectionName, prevName, .continuation value :: later =>
      ⟨sectionName, prevName, value⟩ :: denoted sectionName prevName later
  | sectionName, prevName, .nothing :: later | sectionName, prevName, .bad :: later =>
      denoted sectionName prevName later

theorem foldl_recordEntry (written : List Reading) (state : ParseState (List Entry)) :
    (written.foldl (·.accept recordEntry ·) state).data =
      state.data ++ denoted state.sectionName state.prevName written := by
  induction written generalizing state with
  | nil => simp [denoted]
  | cons reading later ih =>
      rw [List.foldl_cons, ih]
      cases reading with
      | nothing => rfl
      | bad => rfl
      | header name => rfl
      | pair name value =>
          simp [ParseState.accept, ParseState.handle, recordEntry, denoted]
      | continuation value =>
          simp [ParseState.accept, ParseState.handle, recordEntry, denoted]

theorem entries_eq_denoted (file : CString) : entries file = denoted [] [] (document file) := by
  rw [entries, iniParseStream_document, foldl_recordEntry]
  rfl

/-- A file with the document, whose first bad line has the given number. -/
def faultyFile (written : List Reading) : (error : Nat) → CString
  | 0 => documentFile written
  | before + 1 => joinLines (List.replicate before [] ++ ['x'] :: written.map Reading.line)

theorem readingOf_blank (prevName : CString) (lineno : Nat) :
    readingOf prevName lineno [] = .nothing := by
  simp [readingOf, skipBom, rstrip, lskip]

theorem readingOf_x (lineno : Nat) : readingOf [] lineno ['x'] = .bad := by
  have unmarked : skipBom lineno ['x'] = ['x'] := if_neg (fun both => absurd both.2 (by decide))
  have shown : List.takeWhile (· ≠ '\x00') ['x'] = ['x'] := by decide
  simp only [readingOf, shown, unmarked]
  decide

theorem readings_faulty {written : List Reading} (wellFormed : WellFormed [] written)
    (before : Nat) {lineno : Nat} (counted : 0 < lineno) :
    readings [] lineno (List.replicate before [] ++ ['x'] :: written.map Reading.line) =
      List.replicate before .nothing ++ .bad :: written := by
  induction before generalizing lineno with
  | zero =>
      simp only [List.replicate_zero, List.nil_append, readings, readingOf_x, Reading.nextName]
      rw [wellFormed.readings (Nat.lt_succ_of_le counted)]
  | succ before ih =>
      simp only [List.replicate_succ, List.cons_append, readings, readingOf_blank,
        Reading.nextName]
      rw [ih (Nat.succ_pos _)]

theorem fileLines_faultyFile {written : List Reading} (wellFormed : WellFormed [] written)
    (before : Nat) : fileLines (faultyFile written (before + 1)) =
      List.replicate before [] ++ ['x'] :: written.map Reading.line := by
  have lines : ∀ line ∈ List.replicate before [] ++ ['x'] :: written.map Reading.line,
      '\n' ∉ line ∧ Fits line := by
    intro line member
    rcases List.mem_append.mp member with blank | other
    · rw [List.eq_of_mem_replicate blank]
      decide
    · rcases List.mem_cons.mp other with rfl | listed
      · decide
      · exact wellFormed.lines line listed
  have read := fileLines_joinLines (fun line member => (lines line member).1)
    (fun line member => (lines line member).2) []
  rw [List.append_nil] at read
  rw [faultyFile, read]
  exact List.append_nil _

theorem document_faultyFile {written : List Reading} (wellFormed : WellFormed [] written)
    (error : Nat) : document (faultyFile written error) = written := by
  cases error with
  | zero => exact document_documentFile wellFormed
  | succ before =>
      rw [document, fileLines_faultyFile wellFormed,
        readings_faulty wellFormed before Nat.one_pos, List.filter_append,
        List.filter_cons_of_neg (by simp [Reading.significant]), filter_significant wellFormed]
      simp [Reading.significant]

theorem firstBad_faulty (written : List Reading) (before lineno : Nat) :
    firstBad lineno (List.replicate before .nothing ++ .bad :: written) = lineno + before := by
  induction before generalizing lineno with
  | zero => simp [firstBad]
  | succ before ih =>
      rw [List.replicate_succ, List.cons_append, firstBad, if_neg (by simp), ih]
      omega

theorem firstError_faultyFile {written : List Reading} (wellFormed : WellFormed [] written)
    (error : Nat) : firstError (faultyFile written error) = error := by
  cases error with
  | zero => exact documentFile_firstError wellFormed
  | succ before =>
      rw [firstError_firstBad, fileLines_faultyFile wellFormed,
        readings_faulty wellFormed before Nat.one_pos, firstBad_faulty, Nat.add_comm]

/-- The entries that files can have are those that well-formed documents denote; the first bad line
of such a file can have any number, or there is none. -/
theorem accepted_iff_wellFormed (listed : List Entry) (error : Nat) :
    (∃ file, entries file = listed ∧ firstError file = error) ↔
      ∃ written, WellFormed [] written ∧ denoted [] [] written = listed := by
  constructor
  · rintro ⟨file, rfl, -⟩
    exact ⟨document file, document_wellFormed file, (entries_eq_denoted file).symm⟩
  · rintro ⟨written, wellFormed, rfl⟩
    refine ⟨faultyFile written error, ?_, firstError_faultyFile wellFormed error⟩
    rw [entries_eq_denoted, document_faultyFile wellFormed]

-- A name of a section is cut after 71 characters.
example : denoted [] [] [.header (List.replicate 100 's'), .pair ['a'] ['1']] =
    [⟨List.replicate 71 's', ['a'], ['1']⟩] := by decide

end SysCon.Ini
