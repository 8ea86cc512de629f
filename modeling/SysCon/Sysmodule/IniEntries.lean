import SysCon.Sysmodule.Ini

/-!
What a file says, apart from what a handler makes of it: its lines, its entries
(one for each call of the handler) and its first bad line. A handler that always
succeeds is a fold over the entries.
-/

namespace SysCon.Ini

open CLibrary

structure Entry where
  sectionName : CString
  name : CString
  value : CString
  deriving DecidableEq, Repr

def recordEntry : Handler (List Entry) :=
  fun entries sectionName name value => (1, entries ++ [⟨sectionName, name, value⟩])

def entries (file : CString) : List Entry := (iniParseStream recordEntry file []).2

/-- The number of the first bad line, 0 without one. -/
def firstError (file : CString) : Nat := (iniParseStream recordEntry file []).1

section Simulation

variable {user : Type} {handler : Handler user} {initial : user}

def Handler.succeeds (handler : Handler user) : Prop :=
  ∀ data sectionName name value, (handler data sectionName name value).1 ≠ 0

def Handler.after (handler : Handler user) (data : user) (entry : Entry) : user :=
  (handler data entry.sectionName entry.name entry.value).2

structure Simulates (handler : Handler user) (initial : user) (state : ParseState user)
    (recorded : ParseState (List Entry)) : Prop where
  sectionName : state.sectionName = recorded.sectionName
  prevName : state.prevName = recorded.prevName
  lineno : state.lineno = recorded.lineno
  error : state.error = recorded.error
  data : state.data = recorded.data.foldl handler.after initial

namespace Simulates

variable {state : ParseState user} {recorded : ParseState (List Entry)}

theorem fail (same : Simulates handler initial state recorded) :
    Simulates handler initial state.fail recorded.fail where
  sectionName := same.sectionName
  prevName := same.prevName
  lineno := same.lineno
  error := by simp only [ParseState.fail, same.error, same.lineno]
  data := same.data

theorem handle (succeeds : handler.succeeds) (same : Simulates handler initial state recorded)
    (name value : CString) :
    Simulates handler initial (state.handle handler name value)
      (recorded.handle recordEntry name value) := by
  have passes := succeeds state.data state.sectionName name value
  have handled : state.handle handler name value =
      { state with data := (handler state.data state.sectionName name value).2 } := by
    unfold ParseState.handle
    simp only [if_neg passes]
  have stored : recorded.handle recordEntry name value =
      { recorded with data := recorded.data ++ [⟨recorded.sectionName, name, value⟩] } := rfl
  rw [handled, stored]
  refine ⟨same.sectionName, same.prevName, same.lineno, same.error, ?_⟩
  rw [List.foldl_append, ← same.data, ← same.sectionName]
  rfl

theorem parseHeader (same : Simulates handler initial state recorded) (start : CString) :
    Simulates handler initial (Ini.parseHeader state start) (Ini.parseHeader recorded start) := by
  unfold Ini.parseHeader
  cases findCharsOrComment [']'] false start.tail with
  | mk header found =>
      by_cases closed : found.head? = some ']'
      · simp only [if_pos closed]
        exact ⟨rfl, rfl, same.lineno, same.error, same.data⟩
      · simp only [if_neg closed]
        exact same.fail

theorem parsePair (succeeds : handler.succeeds) (same : Simulates handler initial state recorded)
    (start : CString) :
    Simulates handler initial (Ini.parsePair handler state start)
      (Ini.parsePair recordEntry recorded start) := by
  unfold Ini.parsePair
  cases findCharsOrComment ['=', ':'] false start with
  | mk name found =>
      by_cases assigns : found.head? = some '=' ∨ found.head? = some ':'
      · simp only [if_pos assigns]
        have named : Simulates handler initial
            { state with prevName := (rstrip name).take (MAX_NAME - 1) }
            { recorded with prevName := (rstrip name).take (MAX_NAME - 1) } :=
          ⟨same.sectionName, rfl, same.lineno, same.error, same.data⟩
        exact named.handle succeeds _ _
      · simp only [if_neg assigns]
        exact same.fail

theorem parseLine (succeeds : handler.succeeds) (same : Simulates handler initial state recorded)
    (line : CString) :
    Simulates handler initial (Ini.parseLine handler state line)
      (Ini.parseLine recordEntry recorded line) := by
  have counted : Simulates handler initial { state with lineno := state.lineno + 1 }
      { recorded with lineno := recorded.lineno + 1 } :=
    ⟨same.sectionName, same.prevName, congrArg (· + 1) same.lineno, same.error, same.data⟩
  unfold Ini.parseLine
  simp only [same.lineno, same.prevName]
  rw [same.lineno, same.prevName] at counted
  generalize rstrip (skipBom (recorded.lineno + 1) (line.takeWhile (· ≠ '\x00'))) = stripped
  cases lskip stripped with
  | nil => exact counted
  | cons first rest =>
      simp only
      by_cases comment : first = ';' ∨ first = '#'
      · rw [if_pos comment, if_pos comment]
        exact counted
      · rw [if_neg comment, if_neg comment]
        split
        · exact counted.handle succeeds _ _
        · by_cases header : first = '['
          · rw [if_pos header, if_pos header]
            exact counted.parseHeader _
          · rw [if_neg header, if_neg header]
            exact counted.parsePair succeeds _

theorem parseLoop (succeeds : handler.succeeds) (fuel : Nat) (file : CString)
    (same : Simulates handler initial state recorded) :
    Simulates handler initial (Ini.parseLoop handler fuel file state)
      (Ini.parseLoop recordEntry fuel file recorded) := by
  induction fuel generalizing file state recorded with
  | zero => exact same
  | succ fuel ih =>
      unfold Ini.parseLoop
      cases readLine INI_MAX_LINE file with
      | none => exact same
      | some read => exact ih read.2 (same.parseLine succeeds read.1)

end Simulates

theorem iniParseStream_eq (succeeds : handler.succeeds) (file : CString) (data : user) :
    iniParseStream handler file data =
      (firstError file, (entries file).foldl handler.after data) := by
  have same : Simulates handler data (parseLoop handler file.length file { data })
      (parseLoop recordEntry file.length file { data := [] }) :=
    Simulates.parseLoop succeeds _ _ ⟨rfl, rfl, rfl, rfl, rfl⟩
  exact Prod.ext same.error same.data

end Simulation

/-! The lines that the reader delivers. -/

theorem readLine_shorter {num : Nat} {file line left : CString}
    (read : readLine num file = some (line, left)) : left.length < file.length := by
  induction file generalizing num line with
  | nil => cases num <;> simp [readLine] at read
  | cons c rest ih =>
      cases num with
      | zero => simp [readLine] at read
      | succ num =>
          rw [readLine] at read
          by_cases ends : c = '\n'
          · rw [if_pos ends] at read
            simp only [Option.some.injEq, Prod.mk.injEq] at read
            rw [← read.2]
            exact Nat.lt_succ_self _
          · rw [if_neg ends, Option.map_eq_some_iff] at read
            obtain ⟨⟨shorter, after⟩, readRest, same⟩ := read
            simp only [Prod.mk.injEq] at same
            rw [same.2] at readRest
            exact Nat.lt_succ_of_lt (ih readRest)

theorem readLine_append {line : CString} (oneLine : '\n' ∉ line) (num : Nat) (rest : CString) :
    readLine num (line ++ '\n' :: rest) =
      if line.length < num then some (line, rest) else none := by
  induction line generalizing num with
  | nil => cases num <;> simp [readLine]
  | cons c tail ih =>
      have notEnd : c ≠ '\n' := fun same => oneLine (same ▸ List.mem_cons_self)
      cases num with
      | zero => simp [readLine]
      | succ num =>
          rw [List.cons_append, readLine, if_neg notEnd,
            ih (fun member => oneLine (List.mem_cons_of_mem _ member)), List.length_cons]
          by_cases room : tail.length < num
          · have larger : tail.length + 1 < num + 1 := by omega
            rw [if_pos room, if_pos larger]
            rfl
          · have full : ¬tail.length + 1 < num + 1 := by omega
            rw [if_neg room, if_neg full]
            rfl

def linesOf : (fuel : Nat) → CString → List CString
  | 0, _ => []
  | fuel + 1, file =>
      match readLine INI_MAX_LINE file with
      | none => []
      | some (line, left) => line :: linesOf fuel left

def fileLines (file : CString) : List CString := linesOf file.length file

theorem linesOf_enough {fuel : Nat} {file : CString} (enough : file.length ≤ fuel) :
    linesOf fuel file = fileLines file := by
  unfold fileLines
  induction fuel using Nat.strongRecOn generalizing file with
  | ind fuel ih =>
      cases fuel with
      | zero =>
          have empty : file = [] := List.length_eq_zero_iff.mp (Nat.le_zero.mp enough)
          rw [empty]
          rfl
      | succ fuel =>
          cases file with
          | nil => rfl
          | cons c rest =>
              rw [List.length_cons] at enough ⊢
              unfold linesOf
              cases read : readLine INI_MAX_LINE (c :: rest) with
              | none => rfl
              | some answer =>
                  have shorter := readLine_shorter read
                  rw [List.length_cons] at shorter
                  simp only
                  rw [ih fuel (Nat.lt_succ_self _) (by omega),
                    ih rest.length (by omega) (by omega)]

theorem fileLines_append {line : CString} (oneLine : '\n' ∉ line) (rest : CString) :
    fileLines (line ++ '\n' :: rest) =
      if line.length < INI_MAX_LINE then line :: fileLines rest else [] := by
  have length : (line ++ '\n' :: rest).length = line.length + rest.length + 1 := by
    simp [Nat.add_assoc]
  rw [fileLines, length, linesOf, readLine_append oneLine]
  by_cases fits : line.length < INI_MAX_LINE
  · rw [if_pos fits, if_pos fits]
    exact congrArg (line :: ·) (linesOf_enough (by omega))
  · rw [if_neg fits, if_neg fits]

def joinLines (lines : List CString) : CString := lines.flatMap fun line => line ++ ['\n']

theorem joinLines_cons (line : CString) (later : List CString) (rest : CString) :
    joinLines (line :: later) ++ rest = line ++ '\n' :: (joinLines later ++ rest) := by
  simp [joinLines]

def Fits (line : CString) : Prop := line.length < INI_MAX_LINE

instance (line : CString) : Decidable (Fits line) :=
  inferInstanceAs (Decidable (line.length < INI_MAX_LINE))

theorem fileLines_joinLines {lines : List CString} (whole : ∀ line ∈ lines, '\n' ∉ line)
    (fit : ∀ line ∈ lines, Fits line) (rest : CString) :
    fileLines (joinLines lines ++ rest) = lines ++ fileLines rest := by
  induction lines with
  | nil => rfl
  | cons line later ih =>
      have after := ih (fun other member => whole other (by simp [member]))
        (fun other member => fit other (by simp [member]))
      have fits : line.length < INI_MAX_LINE := fit line (by simp)
      rw [joinLines_cons, fileLines_append (whole line (by simp)), if_pos fits, after]
      rfl

/-- Behind a line that does not fit nothing is read. -/
theorem fileLines_overlong {lines : List CString} (whole : ∀ line ∈ lines, '\n' ∉ line)
    (overlong : ∃ line ∈ lines, ¬Fits line) (rest other : CString) :
    fileLines (joinLines lines ++ rest) = fileLines (joinLines lines ++ other) := by
  induction lines with
  | nil =>
      obtain ⟨line, member, _⟩ := overlong
      simp at member
  | cons line later ih =>
      rw [joinLines_cons, joinLines_cons, fileLines_append (whole line (by simp)),
        fileLines_append (whole line (by simp))]
      by_cases fits : line.length < INI_MAX_LINE
      · rw [if_pos fits, if_pos fits]
        have behind : ∃ line ∈ later, ¬Fits line := by
          obtain ⟨long, member, tooLong⟩ := overlong
          rcases List.mem_cons.mp member with rfl | member
          · exact absurd fits tooLong
          · exact ⟨long, member, tooLong⟩
        rw [ih (fun next member => whole next (by simp [member])) behind]
      · rw [if_neg fits, if_neg fits]

theorem parseLoop_eq_foldl {user : Type} (handler : Handler user) (fuel : Nat) (file : CString)
    (state : ParseState user) :
    parseLoop handler fuel file state = (linesOf fuel file).foldl (parseLine handler) state := by
  induction fuel generalizing file state with
  | zero => rfl
  | succ fuel ih =>
      unfold parseLoop linesOf
      cases readLine INI_MAX_LINE file with
      | none => rfl
      | some read => exact ih read.2 (parseLine handler state read.1)

/-- The parse that records the entries, after some lines. -/
def recordLines (lines : List CString) : ParseState (List Entry) :=
  lines.foldl (parseLine recordEntry) { data := [] }

theorem entries_eq (file : CString) : entries file = (recordLines (fileLines file)).data := by
  unfold entries iniParseStream recordLines fileLines
  rw [parseLoop_eq_foldl]

theorem firstError_eq (file : CString) :
    firstError file = (recordLines (fileLines file)).error := by
  unfold firstError iniParseStream recordLines fileLines
  rw [parseLoop_eq_foldl]

end SysCon.Ini
