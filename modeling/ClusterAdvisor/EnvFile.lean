import ClusterAdvisor.Text.Alphanumeric
import ClusterAdvisor.Text.Blank

/-!
Variables, and files of variables with one assignment on a line. A file fills in variables that are
not set. Values may be quoted, strongly by single and weakly by double quotes, may hold escapes, and
may use the values of other variables. A line that cannot be understood ends the file.
-/

namespace ClusterAdvisor

abbrev Variables := String → Option String

/-- What an entry says about a key. Entries are kept as texts with an equals sign behind the name,
and whatever such a text has in front of one of its equals signs is a key of it. -/
def entryValue? (name value key : String) : Option String :=
  let entry := name.toList ++ '=' :: value.toList
  let front := key.toList ++ ['=']
  if !key.isEmpty && front.isPrefixOf entry then some (String.ofList (entry.drop front.length))
  else none

def Variables.ofEntries (entries : List (String × String)) : Variables := fun key =>
  entries.findSome? fun (name, value) => entryValue? name value key

/-- Sets a variable unless it is set; none if no entry can hold the value. -/
def Variables.fill? (vars : Variables) (name value : String) : Option Variables :=
  if (vars name).isSome then some vars
  else if value.toList.contains '\x00' then none
  else some fun key => (vars key).or (entryValue? name value key)

namespace EnvFile

inductive Mode where
  | plain
  /-- Behind a backslash. -/
  | escaped
  /-- Inside single quotes. -/
  | strong
  /-- Behind a dollar sign, with the letters of the name so far. -/
  | name (letters : List Char)
  /-- The same inside braces. -/
  | braced (letters : List Char)
  /-- Behind a blank: only a comment may follow. -/
  | ending
  deriving DecidableEq, Repr

/-- The value of a variable whose name has been read; one that is not set is empty. -/
def valueOf (vars : Variables) (letters : List Char) : List Char :=
  ((vars (String.ofList letters)).getD "").toList

def escapedChar? : Char → Option Char
  | 'n' => some '\n'
  | c => if c ∈ ['\\', '\'', '"', '$', ' '] then some c else none

/-- Reads a value to its end; `weak` tells whether it is inside double quotes. A character that ends
the name of a variable is taken as it is. -/
def readValue (vars : Variables) : (weak : Bool) → Mode → (read : List Char) → List Char →
    Option (List Char)
  | weak, mode, read, [] =>
    match mode with
    | .strong | .braced _ => none
    | .name letters => if weak then none else some (read ++ valueOf vars letters)
    | _ => if weak then none else some read
  | weak, mode, read, c :: rest =>
    match mode with
    | .ending =>
      if c = ' ' || c = '\t' then readValue vars weak .ending read rest
      else if c = '#' then some read
      else none
    | .escaped =>
      match escapedChar? c with
      | some c => readValue vars weak .plain (read ++ [c]) rest
      | none => none
    | .strong =>
      if c = '\'' then readValue vars weak .plain read rest
      else readValue vars weak .strong (read ++ [c]) rest
    | .name letters =>
      if Text.isAlphanumeric c then readValue vars weak (.name (letters ++ [c])) read rest
      else if c = '{' && letters.isEmpty then readValue vars weak (.braced []) read rest
      else if c = '$' then readValue vars weak (.name []) (read ++ valueOf vars letters) rest
      else readValue vars weak .plain (read ++ valueOf vars letters ++ [c]) rest
    | .braced letters =>
      if c = '}' then readValue vars weak .plain (read ++ valueOf vars letters) rest
      else readValue vars weak (.braced (letters ++ [c])) read rest
    | .plain =>
      if c = '$' then readValue vars weak (.name []) read rest
      else if c = '\\' then readValue vars weak .escaped read rest
      else if c = '"' then readValue vars (!weak) .plain read rest
      else if weak then readValue vars weak .plain (read ++ [c]) rest
      else if c = '\'' then readValue vars weak .strong read rest
      else if c = ' ' || c = '\t' then readValue vars weak .ending read rest
      else readValue vars weak .plain (read ++ [c]) rest

def isNameStart (c : Char) : Bool := c.isAlpha || c = '_'

def isNameChar (c : Char) : Bool := c.isAlphanum || c = '_' || c = '.'

def readName? (line : List Char) : Option (List Char × List Char) :=
  if line.head?.any isNameStart then
    some (line.takeWhile isNameChar, (line.dropWhile isNameChar).dropWhile Text.isBlank)
  else none

def afterEquals? : List Char → Option (List Char)
  | '=' :: rest => some (rest.dropWhile Text.isBlank)
  | _ => none

/-- Whether a line, or what is left of it, says nothing. -/
def isSilent (line : List Char) : Bool := line.isEmpty || line.head? = some '#'

/-- The name and the text of the value on a line. The word `export` in front of a name is passed
over. -/
def splitLine? (line : List Char) : Option (List Char × List Char) := do
  let (name, rest) ← readName? line
  match afterEquals? rest with
  | some value => pure (name, value)
  | none =>
    if name = "export".toList then
      let (name, rest) ← readName? rest
      pure (name, ← afterEquals? rest)
    else none

inductive Line where
  | silent
  | assignment (name value : String)
  deriving DecidableEq, Repr

def Line.ofText? (vars : Variables) (text : String) : Option Line :=
  let line := Text.strip Text.isBlank text.toList
  if isSilent line then some .silent
  else do
    let (name, text) ← splitLine? line
    let value ← if isSilent text then pure [] else readValue vars false .plain [] text
    pure (.assignment (String.ofList name) (String.ofList value))

def lines : List UInt8 → List (List UInt8)
  | [] => [[]]
  | b :: rest =>
    if b = 10 then [] :: lines rest
    else
      match lines rest with
      | [] => [[b]]
      | line :: others => (b :: line) :: others

/-- Fills in variables line by line, up to the first line that is no text or cannot be understood;
none if a variable cannot be set. -/
def fillLines? (vars : Variables) : List (List UInt8) → Option Variables
  | [] => some vars
  | bytes :: rest =>
    match (String.fromUTF8? (ByteArray.mk bytes.toArray)).bind (Line.ofText? vars) with
    | some .silent => fillLines? vars rest
    | some (.assignment name value) =>
      match vars.fill? name value with
      | some vars => fillLines? vars rest
      | none => none
    | none => some vars

def fill? (vars : Variables) (content : ByteArray) : Option Variables :=
  fillLines? vars (lines content.toList)

end EnvFile

end ClusterAdvisor
