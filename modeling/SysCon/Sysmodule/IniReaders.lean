import Mathlib.Data.List.Basic
import Mathlib.Data.List.TakeWhile
import SysCon.Sysmodule.IniReadings

/-!
The two line readers of the parser. `IniReaderLineByLineCallback` replaces the
end of a line and gives up on a line without one; `ini_reader_string` keeps the
end and delivers what it has. On lines that fit, the parser cannot tell the
difference except for a last line that does not end.
-/

namespace SysCon.Ini

open CLibrary

/-- The line put into a buffer of `num` bytes, and what is left of the stream. -/
abbrev Reader := (num : Nat) → CString → Option (CString × CString)

/-- The copying loop of `ini_reader_string`. -/
def copyLine : (num : Nat) → CString → CString × CString
  | num + 2, c :: rest =>
      if c = '\n' then ([c], rest)
      else
        let (line, left) := copyLine (num + 1) rest
        (c :: line, left)
  | _, rest => ([], rest)

def iniReaderString : Reader := fun num stream =>
  if stream = [] ∨ num < 2 then none else some (copyLine num stream)

def linesRead (reader : Reader) : (fuel : Nat) → CString → List CString
  | 0, _ => []
  | fuel + 1, stream =>
      match reader INI_MAX_LINE stream with
      | none => []
      | some (line, left) => line :: linesRead reader fuel left

variable {user : Type}

/-- The loop of `ini_parse_stream`, for any reader. -/
def readStream (reader : Reader) (handler : Handler user) :
    (fuel : Nat) → CString → ParseState user → ParseState user
  | 0, _, state => state
  | fuel + 1, stream, state =>
      match reader INI_MAX_LINE stream with
      | none => state
      | some (line, left) => readStream reader handler fuel left (parseLine handler state line)

-- `strlen` ends the string at its first NUL; every read takes at least one character.
def iniParseString (handler : Handler user) (string : CString) (data : user) : Nat × user :=
  let stream := string.takeWhile (· ≠ '\x00')
  let final := readStream iniReaderString handler stream.length stream { data }
  (final.error, final.data)

theorem parseLoop_eq_readStream (handler : Handler user) (fuel : Nat) (file : CString)
    (state : ParseState user) :
    parseLoop handler fuel file state = readStream readLine handler fuel file state := by
  induction fuel generalizing file state with
  | zero => rfl
  | succ fuel ih =>
      unfold parseLoop readStream
      cases readLine INI_MAX_LINE file with
      | none => rfl
      | some read => exact ih read.2 (parseLine handler state read.1)

theorem readStream_eq_foldl (reader : Reader) (handler : Handler user) (fuel : Nat)
    (stream : CString) (state : ParseState user) :
    readStream reader handler fuel stream state =
      (linesRead reader fuel stream).foldl (parseLine handler) state := by
  induction fuel generalizing stream state with
  | zero => rfl
  | succ fuel ih =>
      unfold readStream linesRead
      cases reader INI_MAX_LINE stream with
      | none => rfl
      | some read => exact ih read.2 (parseLine handler state read.1)

/-! The lines that `ini_reader_string` delivers. -/

theorem copyLine_append {num : Nat} {line : CString} (oneLine : '\n' ∉ line)
    (short : line.length + 2 ≤ num) (rest : CString) :
    copyLine num (line ++ '\n' :: rest) = (line ++ ['\n'], rest) := by
  induction line generalizing num with
  | nil =>
      obtain ⟨room, rfl⟩ : ∃ room, num = room + 2 := ⟨num - 2, by simp at short; omega⟩
      simp [copyLine]
  | cons c tail ih =>
      obtain ⟨room, rfl⟩ : ∃ room, num = room + 2 := ⟨num - 2, by omega⟩
      rw [List.mem_cons, not_or] at oneLine
      rw [List.length_cons] at short
      have copied := ih oneLine.2 (show tail.length + 2 ≤ room + 1 by omega)
      simp [copyLine, Ne.symm oneLine.1, copied]

theorem copyLine_last {num : Nat} {line : CString} (oneLine : '\n' ∉ line)
    (short : line.length + 1 ≤ num) : copyLine num line = (line, []) := by
  induction line generalizing num with
  | nil => cases num <;> simp [copyLine]
  | cons c tail ih =>
      rw [List.length_cons] at short
      obtain ⟨room, rfl⟩ : ∃ room, num = room + 2 := ⟨num - 2, by omega⟩
      rw [List.mem_cons, not_or] at oneLine
      have copied := ih oneLine.2 (show tail.length + 1 ≤ room + 1 by omega)
      simp [copyLine, Ne.symm oneLine.1, copied]

def Short (line : CString) : Prop := line.length ≤ INI_MAX_LINE - 2

instance (line : CString) : Decidable (Short line) :=
  inferInstanceAs (Decidable (line.length ≤ INI_MAX_LINE - 2))

theorem iniReaderString_append {line : CString} (oneLine : '\n' ∉ line) (short : Short line)
    (rest : CString) :
    iniReaderString INI_MAX_LINE (line ++ '\n' :: rest) = some (line ++ ['\n'], rest) := by
  have room : line.length + 2 ≤ INI_MAX_LINE := by
    unfold Short INI_MAX_LINE at *
    omega
  rw [iniReaderString, if_neg (by simp [INI_MAX_LINE]), copyLine_append oneLine room]

theorem linesRead_last {line : CString} (oneLine : '\n' ∉ line) (short : Short line) {fuel : Nat}
    (enough : line.length ≤ fuel) :
    linesRead iniReaderString fuel line = if line = [] then [] else [line] := by
  by_cases empty : line = []
  · rw [if_pos empty, empty]
    cases fuel <;> simp [linesRead, iniReaderString]
  · rw [if_neg empty]
    have filled := List.length_pos_iff.mpr empty
    obtain ⟨later, rfl⟩ : ∃ later, fuel = later + 1 := ⟨fuel - 1, by omega⟩
    have room : line.length + 1 ≤ INI_MAX_LINE := by
      unfold Short INI_MAX_LINE at *
      omega
    have read : iniReaderString INI_MAX_LINE line = some (line, []) := by
      rw [iniReaderString, if_neg (by simp [INI_MAX_LINE, empty]), copyLine_last oneLine room]
    rw [linesRead, read]
    cases later <;> simp [linesRead, iniReaderString]

theorem linesRead_joinLines {lines : List CString} (whole : ∀ line ∈ lines, '\n' ∉ line)
    (short : ∀ line ∈ lines, Short line) {last : CString} (oneLine : '\n' ∉ last)
    (lastShort : Short last) {fuel : Nat} (enough : (joinLines lines ++ last).length ≤ fuel) :
    linesRead iniReaderString fuel (joinLines lines ++ last) =
      lines.map (· ++ ['\n']) ++ if last = [] then [] else [last] := by
  induction lines generalizing fuel with
  | nil => exact linesRead_last oneLine lastShort enough
  | cons line later ih =>
      rw [joinLines_cons] at enough ⊢
      simp only [List.length_append, List.length_cons] at enough
      obtain ⟨rest, rfl⟩ : ∃ rest, fuel = rest + 1 := ⟨fuel - 1, by omega⟩
      have behind : (joinLines later ++ last).length ≤ rest := by
        rw [List.length_append]
        omega
      have tail := ih (fun other member => whole other (List.mem_cons_of_mem _ member))
        (fun other member => short other (List.mem_cons_of_mem _ member)) behind
      rw [linesRead, iniReaderString_append (whole line List.mem_cons_self)
        (short line List.mem_cons_self)]
      simp only [tail, List.map_cons, List.cons_append]

/-! To the parser, a line says the same with its end and without it. -/

theorem rstrip_newline (s : CString) : rstrip (s ++ ['\n']) = rstrip s := by
  simp [rstrip, isspace]

theorem skipBom_newline (lineno : Nat) (line : CString) :
    skipBom lineno (line ++ ['\n']) = skipBom lineno line ++ ['\n'] := by
  unfold skipBom
  by_cases long : 3 ≤ line.length
  · rw [List.take_append_of_le_length long, List.drop_append_of_le_length long]
    split <;> rfl
  · have bare : line.take 3 ≠ ['\xef', '\xbb', '\xbf'] := by
      intro same
      have length := congrArg List.length same
      simp only [List.length_take, List.length_cons, List.length_nil] at length
      omega
    have ended : (line ++ ['\n']).take 3 ≠ ['\xef', '\xbb', '\xbf'] := by
      intro same
      have all : (line ++ ['\n']).take 3 = line ++ ['\n'] :=
        List.take_of_length_le (by simp; omega)
      have last := congrArg List.getLast? (all.symm.trans same)
      simp at last
    rw [if_neg (fun both => ended both.2), if_neg (fun both => bare both.2)]

theorem readingOf_newline (prevName : CString) (lineno : Nat) {line : CString}
    (noNul : '\x00' ∉ line) :
    readingOf prevName lineno (line ++ ['\n']) = readingOf prevName lineno line := by
  have visible : ∀ c ∈ line, decide (c ≠ '\x00') = true := by
    intro c member
    exact decide_eq_true (fun same => noNul (same ▸ member))
  have ended : ∀ c ∈ line ++ ['\n'], decide (c ≠ '\x00') = true := by
    intro c member
    rcases List.mem_append.mp member with before | last
    · exact visible c before
    · rw [List.mem_singleton.mp last]
      rfl
  unfold readingOf
  rw [List.takeWhile_eq_self_iff.mpr ended, List.takeWhile_eq_self_iff.mpr visible]
  simp only [skipBom_newline, rstrip_newline, ne_eq, List.append_cancel_right_eq]

theorem foldl_newline (handler : Handler user) {lines : List CString}
    (noNul : ∀ line ∈ lines, '\x00' ∉ line) (state : ParseState user) :
    (lines.map (· ++ ['\n'])).foldl (parseLine handler) state =
      lines.foldl (parseLine handler) state := by
  induction lines generalizing state with
  | nil => rfl
  | cons line rest ih =>
      have first : parseLine handler state (line ++ ['\n']) = parseLine handler state line := by
        rw [parseLine_eq, parseLine_eq, readingOf_newline _ _ (noNul line List.mem_cons_self)]
      rw [List.map_cons, List.foldl_cons, List.foldl_cons, first]
      exact ih (fun other member => noNul other (List.mem_cons_of_mem _ member)) _

/-! What both readers make of a file: its whole lines, and one of them its last line. -/

def wholeLines (file : CString) : List CString := (file.splitOn '\n').dropLast

def lastLine (file : CString) : CString := (file.splitOn '\n').getLast (List.splitOn_ne_nil _ _)

def afterLines (handler : Handler user) (lines : List CString) (data : user) : ParseState user :=
  lines.foldl (parseLine handler) { data }

theorem joinLines_eq_intercalate (lines : List CString) (last : CString) :
    joinLines lines ++ last = ['\n'].intercalate (lines ++ [last]) := by
  induction lines with
  | nil => simp [joinLines]
  | cons line rest ih =>
      rw [joinLines_cons, ih]
      cases rest <;> simp

theorem file_eq (file : CString) : file = joinLines (wholeLines file) ++ lastLine file := by
  rw [joinLines_eq_intercalate]
  unfold wholeLines lastLine
  rw [List.dropLast_append_getLast, List.intercalate_splitOn]

theorem mem_wholeLines {file line : CString} (member : line ∈ wholeLines file) :
    line ∈ file.splitOn '\n' :=
  (List.dropLast_sublist _).subset member

theorem lastLine_mem (file : CString) : lastLine file ∈ file.splitOn '\n' :=
  List.getLast_mem _

theorem readLine_last {last : CString} (oneLine : '\n' ∉ last) (num : Nat) :
    readLine num last = none := by
  induction last generalizing num with
  | nil => cases num <;> rfl
  | cons c rest ih =>
      rw [List.mem_cons, not_or] at oneLine
      cases num with
      | zero => rfl
      | succ num =>
          rw [readLine, if_neg (Ne.symm oneLine.1), ih oneLine.2]
          rfl

theorem oneLine_wholeLines (file : CString) : ∀ line ∈ wholeLines file, '\n' ∉ line :=
  fun line member => separator_not_mem_splitOn '\n' file line (mem_wholeLines member)

theorem fits_wholeLines {file : CString} (short : ∀ line ∈ file.splitOn '\n', Short line) :
    ∀ line ∈ wholeLines file, Fits line := by
  intro line member
  have bound := short line (mem_wholeLines member)
  unfold Short INI_MAX_LINE at bound
  unfold Fits INI_MAX_LINE
  omega

theorem fileLines_eq_wholeLines {file : CString}
    (short : ∀ line ∈ file.splitOn '\n', Short line) : fileLines file = wholeLines file := by
  have nothing : fileLines (lastLine file) = [] := by
    have none := readLine_last (separator_not_mem_splitOn '\n' file _ (lastLine_mem file))
    unfold fileLines
    cases (lastLine file).length <;> simp [linesOf, none]
  conv_lhs => rw [file_eq file]
  rw [fileLines_joinLines (oneLine_wholeLines file) (fits_wholeLines short), nothing,
    List.append_nil]

theorem iniParseStream_eq_afterLines (handler : Handler user) {file : CString}
    (short : ∀ line ∈ file.splitOn '\n', Short line) (data : user) :
    iniParseStream handler file data =
      ((afterLines handler (wholeLines file) data).error,
        (afterLines handler (wholeLines file) data).data) := by
  unfold iniParseStream
  rw [parseLoop_eq_foldl, ← fileLines, fileLines_eq_wholeLines short]
  rfl

theorem iniParseString_eq_afterLines (handler : Handler user) {file : CString}
    (noNul : '\x00' ∉ file) (short : ∀ line ∈ file.splitOn '\n', Short line) (data : user) :
    let whole := afterLines handler (wholeLines file) data
    let final := if lastLine file = [] then whole else parseLine handler whole (lastLine file)
    iniParseString handler file data = (final.error, final.data) := by
  intro whole final
  have all : file.takeWhile (· ≠ '\x00') = file := by
    refine List.takeWhile_eq_self_iff.mpr ?_
    intro c member
    exact decide_eq_true (fun same => noNul (same ▸ member))
  have visible : ∀ line ∈ wholeLines file, '\x00' ∉ line := by
    intro line member nul
    refine noNul ?_
    rw [file_eq file, joinLines]
    refine List.mem_append_left _ (List.mem_flatMap.mpr ⟨line, member, ?_⟩)
    exact List.mem_append_left _ nul
  have delivered := linesRead_joinLines (oneLine_wholeLines file)
    (fun line member => short line (mem_wholeLines member))
    (separator_not_mem_splitOn '\n' file _ (lastLine_mem file)) (short _ (lastLine_mem file))
    (le_refl (joinLines (wholeLines file) ++ lastLine file).length)
  rw [← file_eq] at delivered
  have finalIs : readStream iniReaderString handler file.length file { data } = final := by
    rw [readStream_eq_foldl, delivered, List.foldl_append, foldl_newline handler visible]
    change List.foldl (parseLine handler) whole _ = final
    by_cases empty : lastLine file = []
    · simp [final, empty]
    · simp [final, empty]
  unfold iniParseString
  simp only [all, finalIs]

/-! When the last line does not matter. -/

/-- The handler, recording its calls. -/
def Handler.traced (handler : Handler user) : Handler (user × List Entry) :=
  fun (data, calls) sectionName name value =>
    let (result, data) := handler data sectionName name value
    (result, (data, calls ++ [⟨sectionName, name, value⟩]))

/-- Both readers lead to the same calls, the same data and the same return code. -/
def ReadersAgree (handler : Handler user) (file : CString) (data : user) : Prop :=
  iniParseStream handler.traced file (data, []) = iniParseString handler.traced file (data, [])

instance [DecidableEq user] (handler : Handler user) (file : CString) (data : user) :
    Decidable (ReadersAgree handler file data) :=
  inferInstanceAs (Decidable (iniParseStream _ _ _ = iniParseString _ _ _))

/-- The line calls no handler and is no first error. -/
def Reading.isSilent (error : Nat) : Reading → Bool
  | .nothing => true
  | .header _ => true
  | .bad => error ≠ 0
  | .continuation _ => false
  | .pair _ _ => false

def Silent (state : ParseState user) (line : CString) : Prop :=
  (readingOf state.prevName (state.lineno + 1) line).isSilent state.error = true

instance (state : ParseState user) (line : CString) : Decidable (Silent state line) :=
  inferInstanceAs (Decidable ((readingOf _ _ _).isSilent _ = true))

theorem length_handle_traced (handler : Handler user) (state : ParseState (user × List Entry))
    (name value : CString) :
    (state.handle handler.traced name value).data.2.length = state.data.2.length + 1 := by
  unfold ParseState.handle Handler.traced
  simp only
  split
  · simp [ParseState.fail]
  · simp

theorem silent_iff (handler : Handler user) (state : ParseState (user × List Entry))
    (line : CString) :
    ((state.error, state.data) =
      ((parseLine handler.traced state line).error, (parseLine handler.traced state line).data)) ↔
      Silent state line := by
  have called {after : ParseState (user × List Entry)}
      (longer : after.data.2.length = state.data.2.length + 1) :
      ¬(state.error, state.data) = (after.error, after.data) := by
    intro same
    rw [Prod.mk.injEq] at same
    rw [← same.2] at longer
    omega
  rw [parseLine_eq]
  unfold Silent
  cases readingOf state.prevName (state.lineno + 1) line with
  | nothing => simp [ParseState.accept, Reading.isSilent]
  | header sectionName => simp [ParseState.accept, Reading.isSilent]
  | bad =>
      by_cases clean : state.error = 0 <;>
        simp [ParseState.accept, ParseState.fail, Reading.isSilent, clean]
  | continuation value =>
      simp only [Reading.isSilent, Bool.false_eq_true, iff_false]
      exact called (length_handle_traced handler _ _ _)
  | pair name value =>
      simp only [Reading.isSilent, Bool.false_eq_true, iff_false]
      exact called (length_handle_traced handler _ _ _)

/-- The readers agree on a file exactly when what follows its last end of a line, if anything, is
silent: blank, a comment, a header, or a bad line after an earlier error. -/
theorem readers_agree_iff (handler : Handler user) (data : user) {file : CString}
    (noNul : '\x00' ∉ file) (short : ∀ line ∈ file.splitOn '\n', Short line) :
    ReadersAgree handler file data ↔
      lastLine file = [] ∨
        Silent (afterLines handler.traced (wholeLines file) (data, [])) (lastLine file) := by
  unfold ReadersAgree
  rw [iniParseStream_eq_afterLines handler.traced short,
    iniParseString_eq_afterLines handler.traced noNul short]
  by_cases empty : lastLine file = []
  · simp [empty]
  · simp only [empty, if_false, false_or]
    exact silent_iff handler _ _

theorem readers_agree_comment :
    ReadersAgree recordEntry "[a]\r\nb=1\n  2\n\n;end".toList [] := by
  refine (readers_agree_iff recordEntry [] ?_ ?_).mpr (Or.inr ?_) <;> decide

/-- A last line without its end is lost. -/
theorem unterminated_line_lost :
    let file := "[a]\nb=1".toList
    '\x00' ∉ file ∧ (∀ line ∈ file.splitOn '\n', Short line) ∧
      iniParseStream recordEntry file [] = (0, []) ∧
      iniParseString recordEntry file [] =
        (0, [⟨"a".toList, "b".toList, "1".toList⟩]) ∧
      ¬ReadersAgree recordEntry file [] := by
  decide

end SysCon.Ini
