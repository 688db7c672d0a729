/-!
# Tokens of TOML

A document is cut into tokens one character at a time: `Scanner.step` says what a character does to
the token being read, and `tokens?` folds it over the document. Quoted texts come out with their
escapes resolved; all other runs come out as they are, blanks inside them included, and are judged
where they stand. A quote opens a text except inside a run. White space between tokens and comments
are one kind of token, since no rule tells them apart.

A carriage return counts only before a line feed, and is refused anywhere else beforehand.
-/

namespace MessageDispatch.Toml

/-- The two kinds of brackets that can nest. -/
inductive Bracket where
  | square
  | curly
  deriving DecidableEq, Repr

/-- The two kinds of quotes: escapes are resolved between basic ones only. -/
inductive Quote where
  | basic
  | literal
  deriving DecidableEq, Repr

/-- The character of a quote. -/
def Quote.char : Quote → Char
  | .basic => '"'
  | .literal => Char.ofNat 0x27

/-- A piece of a document. -/
inductive Token where
  | blank
  | newline
  | equals
  | comma
  | opening (b : Bracket)
  | closing (b : Bracket)
  | bare (run : List Char)
  | text (content : String) (multiline : Bool)
  deriving DecidableEq

/-- Characters that may stand in comments and quoted texts: all but control characters other than
the tab. -/
def isTextual (c : Char) : Bool :=
  c == '\t' || (decide (0x20 ≤ c.toNat) && c.toNat != 0x7F)

/-- A space or a tab. -/
def isBlankChar (c : Char) : Bool :=
  c == ' ' || c == '\t'

/-- The token being read. Runs and texts are kept with the last character first. -/
inductive Scanner where
  | outside
  | bare (run : List Char)
  /-- A run and blanks after it, which belong to the run if it goes on. -/
  | gap (run blanks : List Char)
  | comment
  | quoteSeen (q : Quote)
  | quotesSeen (q : Quote)
  /-- After the three quotes that open a multi-line text: a newline here is dropped. -/
  | opened (q : Quote)
  | inside (q : Quote) (multiline : Bool) (text : List Char)
  /-- Quotes inside a multi-line text, which may be the end of it. -/
  | closing (q : Quote) (text : List Char) (quotes : Nat)
  | escape (multiline : Bool) (text : List Char)
  | code (multiline : Bool) (text : List Char) (digits value : Nat)
  /-- White space after a backslash at the end of a line, before and after that end. -/
  | fold (text : List Char) (newline : Bool)
  | closed (multiline : Bool) (text : List Char)

namespace Scanner

/-- What a character does outside of tokens. -/
def start (c : Char) : List Token × Scanner :=
  if c = ' ' ∨ c = '\t' ∨ c = '\r' then ([.blank], .outside)
  else if c = '\n' then ([.newline], .outside)
  else if c = '#' then ([.blank], .comment)
  else if c = '=' then ([.equals], .outside)
  else if c = ',' then ([.comma], .outside)
  else if c = '[' then ([.opening .square], .outside)
  else if c = ']' then ([.closing .square], .outside)
  else if c = Char.ofNat 0x7B then ([.opening .curly], .outside)
  else if c = Char.ofNat 0x7D then ([.closing .curly], .outside)
  else if c = Quote.basic.char then ([], .quoteSeen .basic)
  else if c = Quote.literal.char then ([], .quoteSeen .literal)
  else ([], .bare [c])

/-- A character that begins a bare run, and that a run goes on with after blanks. -/
def beginsRun (c : Char) : Bool :=
  match start c with
  | (_, .bare _) => true
  | _ => false

/-- The character opens a quoted text where a token may begin. -/
def isQuote (c : Char) : Bool :=
  c == Quote.basic.char || c == Quote.literal.char

/-- A bare run goes on with `c`. A quote belongs to the run, unless a point comes before it. -/
def continuesRun (run : List Char) (c : Char) : Bool :=
  beginsRun c || (isQuote c && run.head? != some '.')

/-- Ends a token before `c`. -/
def emit (ts : List Token) (c : Char) : List Token × Scanner :=
  match start c with
  | (more, s) => (ts ++ more, s)

/-- A quoted text. -/
def textToken (multiline : Bool) (text : List Char) : Token :=
  .text (String.ofList text.reverse) multiline

/-- What a character does inside a quoted text. -/
def content (q : Quote) (multiline : Bool) (text : List Char) (c : Char) : Option Scanner :=
  if c = q.char then
    some (if multiline then .closing q text 1 else .closed false text)
  else if c = '\\' ∧ q = .basic then some (.escape multiline text)
  else if isTextual c || (multiline && (c == '\n' || c == '\r')) then
    some (.inside q multiline (c :: text))
  else none

/-- The character that a letter after a backslash stands for. -/
def escaped? (c : Char) : Option Char :=
  match c with
  | 'b' => some (Char.ofNat 0x8)
  | 't' => some '\t'
  | 'n' => some '\n'
  | 'f' => some (Char.ofNat 0xC)
  | 'r' => some '\r'
  | 'e' => some (Char.ofNat 0x1B)
  | '"' => some '"'
  | '\\' => some '\\'
  | _ => none

/-- How many hexadecimal digits follow a letter after a backslash. -/
def codeDigits? (c : Char) : Option Nat :=
  match c with
  | 'x' => some 2
  | 'u' => some 4
  | 'U' => some 8
  | _ => none

/-- The value of a hexadecimal digit. -/
def hexDigit? (c : Char) : Option Nat :=
  if c.isDigit then some (c.toNat - 0x30)
  else if 'a' ≤ c ∧ c ≤ 'f' then some (c.toNat - 0x61 + 10)
  else if 'A' ≤ c ∧ c ≤ 'F' then some (c.toNat - 0x41 + 10)
  else none

/-- The character of a code point; surrogates are none. -/
def scalar? (n : Nat) : Option Char :=
  if n.isValidChar then some (Char.ofNat n) else none

/-- What a character does to the token being read: the tokens that it completes, and how the reading
goes on. -/
def step (s : Scanner) (c : Char) : Option (List Token × Scanner) :=
  match s with
  | .outside => some (start c)
  | .bare run =>
    if continuesRun run c then some ([], .bare (c :: run))
    else if isBlankChar c then some ([], .gap run [c])
    else some (emit [.bare run.reverse] c)
  | .gap run blanks =>
    if beginsRun c then some ([], .bare (c :: (blanks ++ run)))
    else if isBlankChar c then some ([], .gap run (c :: blanks))
    else some (emit [.bare run.reverse, .blank] c)
  | .comment =>
    if c = '\n' then some (start c)
    else if isTextual c || c == '\r' then some ([], .comment)
    else none
  | .quoteSeen q =>
    if c = q.char then some ([], .quotesSeen q)
    else (content q false [] c).map fun s => ([], s)
  | .quotesSeen q =>
    if c = q.char then some ([], .opened q)
    else some (emit [textToken false []] c)
  | .opened q =>
    if c = '\r' then some ([], .opened q)
    else if c = '\n' then some ([], .inside q true [])
    else (content q true [] c).map fun s => ([], s)
  | .inside q multiline text => (content q multiline text c).map fun s => ([], s)
  | .closing q text quotes =>
    if c = q.char then
      some ([], if quotes < 4 then .closing q text (quotes + 1)
        else .closed true (List.replicate 2 q.char ++ text))
    else if quotes < 3 then
      (content q true (List.replicate quotes q.char ++ text) c).map fun s => ([], s)
    else some (emit [textToken true (List.replicate (quotes - 3) q.char ++ text)] c)
  | .escape multiline text =>
    match escaped? c, codeDigits? c with
    | some e, _ => some ([], .inside .basic multiline (e :: text))
    | none, some digits => some ([], .code multiline text digits 0)
    | none, none =>
      if multiline && (c == ' ' || c == '\t' || c == '\r') then some ([], .fold text false)
      else if multiline && c == '\n' then some ([], .fold text true)
      else none
  | .code multiline text digits value =>
    match hexDigit? c with
    | none => none
    | some d =>
      if 1 < digits then some ([], .code multiline text (digits - 1) (value * 16 + d))
      else
        match scalar? (value * 16 + d) with
        | none => none
        | some e => some ([], .inside .basic multiline (e :: text))
  | .fold text newline =>
    if c = ' ' ∨ c = '\t' ∨ c = '\r' then some ([], .fold text newline)
    else if c = '\n' then some ([], .fold text true)
    else if newline then (content .basic true text c).map fun s => ([], s)
    else none
  | .closed multiline text => some (emit [textToken multiline text] c)

/-- The tokens that the end of the document completes. -/
def finish : Scanner → Option (List Token)
  | .outside | .comment => some []
  | .bare run => some [.bare run.reverse]
  | .gap run _ => some [.bare run.reverse, .blank]
  | .quotesSeen _ => some [textToken false []]
  | .closing q text quotes =>
    if 3 ≤ quotes then some [textToken true (List.replicate (quotes - 3) q.char ++ text)] else none
  | .closed multiline text => some [textToken multiline text]
  | _ => none

/-- Reads the characters of a document; `done` holds the tokens so far, the last first. -/
def run (done : List Token) (s : Scanner) : List Char → Option (List Token)
  | [] =>
    match s.finish with
    | none => none
    | some ts => some (done.reverse ++ ts)
  | c :: cs =>
    match s.step c with
    | none => none
    | some (ts, s) => run (ts.reverseAux done) s cs

end Scanner

/-- Every carriage return has a line feed after it. -/
def returnsPaired : List Char → Bool
  | [] => true
  | ['\r'] => false
  | '\r' :: c :: cs => c == '\n' && returnsPaired (c :: cs)
  | _ :: cs => returnsPaired cs

/-- The document without the mark that it may begin with. -/
def withoutByteOrderMark : List Char → List Char
  | [] => []
  | c :: cs => if c.toNat = 0xFEFF then cs else c :: cs

/-- The tokens of a document. -/
def tokens? (document : String) : Option (List Token) :=
  let cs := withoutByteOrderMark document.toList
  if returnsPaired cs then Scanner.run [] .outside cs else none

end MessageDispatch.Toml
