import SysCon.Sysmodule.IniErrors

/-!
What one line is to the parser, apart from what the handler makes of it: nothing,
the continuation of a pair, a header, a pair or a bad line. The number of the
line matters for the byte-order mark only, and the name of the last pair for
continuations only.
-/

namespace SysCon.Ini

open CLibrary

inductive Reading
  | nothing
  | continuation (value : CString)
  | header (sectionName : CString)
  | pair (name value : CString)
  | bad
  deriving DecidableEq, Repr

def readHeader (start : CString) : Reading :=
  let (header, found) := findCharsOrComment [']'] false start.tail
  if found.head? = some ']' then .header header else .bad

def readPair (start : CString) : Reading :=
  let (name, found) := findCharsOrComment ['=', ':'] false start
  if found.head? = some '=' ∨ found.head? = some ':' then .pair (rstrip name) (valueOf found)
  else .bad

def readingOf (prevName : CString) (lineno : Nat) (line : CString) : Reading :=
  let line := line.takeWhile (· ≠ '\x00')
  let stripped := rstrip (skipBom lineno line)
  let start := lskip stripped
  match start with
  | [] => .nothing
  | first :: _ =>
      if first = ';' ∨ first = '#' then .nothing
      else if prevName ≠ [] ∧ (stripped.length ≠ start.length ∨ skipBom lineno line ≠ line) then
        .continuation start
      else if first = '[' then readHeader start
      else readPair start

variable {user : Type}

def ParseState.accept (state : ParseState user) (handler : Handler user) :
    Reading → ParseState user
  | .nothing => state
  | .continuation value => state.handle handler state.prevName value
  | .header sectionName =>
      { state with sectionName := sectionName.take (MAX_SECTION - 1), prevName := [] }
  | .pair name value =>
      { state with prevName := name.take (MAX_NAME - 1) }.handle handler name value
  | .bad => state.fail

theorem parseHeader_eq (handler : Handler user) (state : ParseState user) (start : CString) :
    parseHeader state start = state.accept handler (readHeader start) := by
  unfold parseHeader readHeader
  cases findCharsOrComment [']'] false start.tail with
  | mk header found =>
      by_cases closed : found.head? = some ']'
      · simp only [if_pos closed]
        rfl
      · simp only [if_neg closed]
        rfl

theorem parsePair_eq (handler : Handler user) (state : ParseState user) (start : CString) :
    parsePair handler state start = state.accept handler (readPair start) := by
  unfold parsePair readPair
  cases findCharsOrComment ['=', ':'] false start with
  | mk name found =>
      by_cases assigns : found.head? = some '=' ∨ found.head? = some ':'
      · simp only [if_pos assigns]
        rfl
      · simp only [if_neg assigns]
        rfl

theorem parseLine_eq (handler : Handler user) (state : ParseState user) (line : CString) :
    parseLine handler state line =
      { state with lineno := state.lineno + 1 }.accept handler
        (readingOf state.prevName (state.lineno + 1) line) := by
  unfold parseLine readingOf
  simp only
  generalize rstrip (skipBom (state.lineno + 1) (line.takeWhile (· ≠ '\x00'))) = stripped
  cases lskip stripped with
  | nil => rfl
  | cons first rest =>
      simp only
      by_cases comment : first = ';' ∨ first = '#'
      · rw [if_pos comment, if_pos comment]
        rfl
      · rw [if_neg comment, if_neg comment]
        split
        · rfl
        · by_cases header : first = '['
          · rw [if_pos header, if_pos header]
            exact parseHeader_eq handler _ _
          · rw [if_neg header, if_neg header]
            exact parsePair_eq handler _ _

end SysCon.Ini
