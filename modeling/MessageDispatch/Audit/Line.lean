import MessageDispatch.Audit

/-!
# Binding events as lines of JSON

Strings are quoted: a quote, a backslash and the control characters below the space are escaped, by
a letter where JSON has one, and all other characters stand for themselves. So no line of an event
holds a line feed, and a file of events is read back line by line (`fileLines`).
-/

namespace MessageDispatch

/-- How a character is written inside a JSON string. -/
def jsonChar (c : Char) : List Char :=
  match c.toNat with
  | 0x22 => ['\\', '"']
  | 0x5C => ['\\', '\\']
  | 0x8 => ['\\', 'b']
  | 0x9 => ['\\', 't']
  | 0xA => ['\\', 'n']
  | 0xC => ['\\', 'f']
  | 0xD => ['\\', 'r']
  | n =>
    if n < 0x20 then ['\\', 'u', '0', '0', Nat.digitChar (n / 16), Nat.digitChar (n % 16)] else [c]

/-- A string in JSON. -/
def jsonString (s : String) : String :=
  "\"" ++ String.ofList (s.toList.flatMap jsonChar) ++ "\""

/-- A string in JSON, or null. -/
def jsonString? (s : Option String) : String :=
  match s with
  | some s => jsonString s
  | none => "null"

/-- The line of an event. -/
def BindingEvent.line (e : BindingEvent) : String :=
  "\x7b" ++ String.intercalate ","
    [ s!"\"event\":{jsonString BindingEvent.kind}",
      s!"\"timestamp_ms\":{e.timestamp}",
      s!"\"contract\":{jsonString e.contract}",
      s!"\"outcome\":{jsonString e.outcome}",
      s!"\"message_methods\":{e.tally.messages}",
      s!"\"skipped_methods\":{e.tally.skipped}",
      s!"\"error_code\":{jsonString? e.errorCode?}",
      s!"\"error\":{jsonString? e.errorText?}" ] ++ "\x7d"

/-- A line without the carriage return before its end. -/
def withoutReturn (line : List Char) : List Char :=
  if line.getLast? = some '\r' then line.dropLast else line

/-- The lines of a file. Each ends with a line feed, and may have a carriage return before it; what
comes after the last line feed is a line if it is not empty. -/
def fileLines (content : String) : List String :=
  let pieces := content.toList.splitOn '\n'
  let rest := pieces.getLast?.getD []
  (pieces.dropLast.map withoutReturn ++ if rest.isEmpty then [] else [rest]).map String.ofList

end MessageDispatch
