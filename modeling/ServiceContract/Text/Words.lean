import ServiceContract.Text.Letter

/-!
# Words of a name

A name is read as a sequence of words and written again in another casing: `HTTPGet` has the words
`HTTP` and `Get`, and becomes `http_get`, `HTTP_GET` or `HttpGet`.

Words are cut in two steps.  Characters that are not alphanumeric separate *runs*.  Inside a run a
word ends where a lower case stretch meets an upper case character (`foo|Bar`), and before the last
character of an upper case stretch that a lower case character follows (`HTTP|Get`).  Characters
without case, such as digits, continue the stretch they stand in.
-/

namespace ServiceContract.Text

/-- The case of the stretch that the scan of a run is in. -/
inductive Stretch
  | fresh
  | lower
  | upper
  deriving DecidableEq, Repr

/-- The stretch after reading `c`, if no word ends there. -/
def Stretch.extend (stretch : Stretch) (c : Char) : Stretch :=
  if isLower c then .lower else if isUpper c then .upper else stretch

/-- The words of the rest of a run, given the characters of the current word backwards. -/
def runWords (stretch : Stretch) (word : List Char) : List Char → List (List Char)
  | [] => []
  | [c] => [(c :: word).reverse]
  | c :: next :: rest =>
    if stretch.extend c = .lower ∧ isUpper next then
      (c :: word).reverse :: runWords .fresh [] (next :: rest)
    else if stretch = .upper ∧ isUpper c ∧ isLower next then
      word.reverse :: runWords .fresh [c] (next :: rest)
    else runWords (stretch.extend c) (c :: word) (next :: rest)

/-- The runs of alphanumeric characters, given the characters of the current run backwards.
Neighbouring separators leave empty runs. -/
def runsFrom (run : List Char) : List Char → List (List Char)
  | [] => [run.reverse]
  | c :: rest => if isAlphanumeric c then runsFrom (c :: run) rest else run.reverse :: runsFrom [] rest

/-- The words of a name, in order. -/
def words (name : List Char) : List (List Char) :=
  (runsFrom [] name).flatMap (runWords .fresh [])

/-- A word in lower case.  A capital sigma at its end becomes the final sigma. -/
def lowerWord : List Char → List Char
  | [] => []
  | [c] => if c = 'Σ' then ['ς'] else toLower c
  | c :: d :: rest => toLower c ++ lowerWord (d :: rest)

/-- A word in upper case. -/
def upperWord (word : List Char) : List Char :=
  word.flatMap toUpper

/-- A word with its first character in upper case and the rest in lower case. -/
def capitalWord : List Char → List Char
  | [] => []
  | c :: rest => toUpper c ++ lowerWord rest

/-- `words_like_this`. -/
def snakeChars (name : List Char) : List Char :=
  ['_'].intercalate ((words name).map lowerWord)

/-- `WORDS_LIKE_THIS`. -/
def shoutyChars (name : List Char) : List Char :=
  ['_'].intercalate ((words name).map upperWord)

/-- `WordsLikeThis`. -/
def camelChars (name : List Char) : List Char :=
  (words name).flatMap capitalWord

/-- The words of a name in lower case, joined by underscores. -/
def snake (name : String) : String :=
  String.ofList (snakeChars name.toList)

/-- The words of a name in upper case, joined by underscores. -/
def shouty (name : String) : String :=
  String.ofList (shoutyChars name.toList)

/-- The words of a name capitalised, joined by nothing. -/
def camel (name : String) : String :=
  String.ofList (camelChars name.toList)

end ServiceContract.Text
