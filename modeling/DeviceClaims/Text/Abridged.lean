namespace DeviceClaims.Abridged

/-- What is said of texts that are no JSON. Messages are compared without details that depend on how a
reader works: what is wrong with a UUID, the place in a JSON text, and which rule of JSON's grammar is
broken there. -/
def diagnoses : List String :=
  ["EOF while parsing a list", "EOF while parsing an object", "EOF while parsing a string",
    "EOF while parsing a value", "expected \x60:\x60", "expected \x60,\x60 or \x60]\x60",
    "expected \x60,\x60 or \x60\x7d\x60", "expected ident", "expected value",
    "expected \x60\"\x60", "invalid escape", "invalid number", "number out of range",
    "invalid unicode code point",
    "control character (\\u0000-\\u001F) found while parsing a string", "key must be a string",
    "lone leading surrogate in hex escape", "trailing comma", "trailing characters",
    "unexpected end of hex escape", "recursion limit exceeded"]

/-- A text without an ending, if it has that ending. -/
def withoutEnding? (ending s : String) : Option String :=
  let keep := s.length - ending.length
  if s.toList.drop keep = ending.toList then some (String.ofList (s.toList.take keep)) else none

/-- A text without a number at its end, if there is one. -/
def withoutNumber? (s : String) : Option String :=
  let rest := s.toList.reverse.dropWhile Char.isDigit
  if rest.length < s.length then some (String.ofList rest.reverse) else none

/-- A message without what is wrong with a UUID. -/
def cutUuid (s : String) : String :=
  match s.splitOn "invalid UUID: " with
  | head :: _ :: _ => head ++ "invalid UUID"
  | _ => s

def cutPlace (s : String) : String :=
  ((withoutNumber? s).bind (withoutEnding? " column ") |>.bind withoutNumber? |>.bind
    (withoutEnding? " at line ")).getD s

/-- A message with a diagnosis at its end replaced by a word for all of them. The diagnosis is the
whole message or follows a colon. -/
def cutDiagnosis (s : String) : String :=
  if diagnoses.contains s then "malformed JSON"
  else ((diagnoses.findSome? fun d => withoutEnding? (": " ++ d) s).map
    (· ++ ": malformed JSON")).getD s

def abridge (s : String) : String := cutDiagnosis (cutPlace (cutUuid s))

end DeviceClaims.Abridged
