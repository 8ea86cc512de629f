import SysCon.Sysmodule.CLibrary

/-!
The INI parser (`ini.c`) and the line reader that feeds it. A file is read line
by line; a line is a comment, a section header, a pair, the continuation of a
pair, or an error, and pairs go to a handler. The parser goes on after an error
and returns the number of the first bad line.
-/

namespace SysCon.Ini

open CLibrary

def INI_MAX_LINE : Nat := 0x480
def MAX_SECTION : Nat := 72
def MAX_NAME : Nat := 72

def rstrip (s : CString) : CString := (s.reverse.dropWhile isspace).reverse

def lskip (s : CString) : CString := s.dropWhile isspace

/-- What stands before the first of `chars` or an inline comment, and the rest from there. -/
def findCharsOrComment (chars : CString) : (wasSpace : Bool) → CString → CString × CString
  | _, [] => ([], [])
  | wasSpace, c :: rest =>
      if c ∈ chars ∨ (wasSpace ∧ c = ';') then ([], c :: rest)
      else
        let (before, found) := findCharsOrComment chars (isspace c) rest
        (c :: before, found)

/-- `IniReaderLineByLineCallback`: the line and the rest of the file. A last line that does not
end, and a line that does not fit, give nothing. -/
def readLine : (num : Nat) → CString → Option (CString × CString)
  | 0, _ => none
  | _ + 1, [] => none
  | num + 1, c :: rest =>
      if c = '\n' then some ([], rest)
      else (readLine num rest).map fun (line, left) => (c :: line, left)

structure ParseState (user : Type) where
  sectionName : CString := []
  prevName : CString := []
  lineno : Nat := 0
  error : Nat := 0
  data : user

abbrev Handler (user : Type) := user → (sectionName name value : CString) → Int × user

variable {user : Type}

def ParseState.fail (state : ParseState user) : ParseState user :=
  { state with error := if state.error = 0 then state.lineno else state.error }

def ParseState.handle (state : ParseState user) (handler : Handler user) (name value : CString) :
    ParseState user :=
  let (result, data) := handler state.data state.sectionName name value
  if result = 0 then { state with data }.fail else { state with data }

def skipBom (lineno : Nat) (line : CString) : CString :=
  if lineno = 1 ∧ line.take 3 = ['\xef', '\xbb', '\xbf'] then line.drop 3 else line

def valueOf (found : CString) : CString :=
  rstrip (lskip (findCharsOrComment [] false found.tail).1)

def parseHeader (state : ParseState user) (start : CString) : ParseState user :=
  let (header, found) := findCharsOrComment [']'] false start.tail
  if found.head? = some ']' then
    { state with sectionName := header.take (MAX_SECTION - 1), prevName := [] }
  else state.fail

def parsePair (handler : Handler user) (state : ParseState user) (start : CString) :
    ParseState user :=
  let (name, found) := findCharsOrComment ['=', ':'] false start
  if found.head? = some '=' ∨ found.head? = some ':' then
    { state with prevName := (rstrip name).take (MAX_NAME - 1) }.handle handler (rstrip name)
      (valueOf found)
  else state.fail

/-- One turn of the loop; `line` is the buffer as the reader filled it. -/
def parseLine (handler : Handler user) (state : ParseState user) (line : CString) :
    ParseState user :=
  let state := { state with lineno := state.lineno + 1 }
  let line := line.takeWhile (· ≠ '\x00')
  let stripped := rstrip (skipBom state.lineno line)
  let start := lskip stripped
  match start with
  | [] => state
  | first :: _ =>
      if first = ';' ∨ first = '#' then state
      else if state.prevName ≠ [] ∧ (stripped.length ≠ start.length ∨
          skipBom state.lineno line ≠ line) then
        state.handle handler state.prevName start
      else if first = '[' then parseHeader state start
      else parsePair handler state start

def parseLoop (handler : Handler user) : (fuel : Nat) → CString → ParseState user → ParseState user
  | 0, _, state => state
  | fuel + 1, file, state =>
      match readLine INI_MAX_LINE file with
      | none => state
      | some (line, left) => parseLoop handler fuel left (parseLine handler state line)

def iniParseStream (handler : Handler user) (file : CString) (data : user) : Nat × user :=
  let final := parseLoop handler file.length file { data }
  (final.error, final.data)

end SysCon.Ini
