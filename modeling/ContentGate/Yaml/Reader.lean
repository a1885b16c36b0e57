/-
  ContentGate.Yaml.Reader — the notation of fixture files.

  Fixture files are written in the flow notation of YAML: sequences in
  brackets, mappings in braces, scalars plain or between quotes, blanks,
  line breaks and comments between them.  A comma may stand behind the
  last item.  The notation contains JSON, with a few differences:

    - A key and its colon stand on one line, at most 1024 bytes apart.
    - A colon behind a plain scalar is one only before a blank.
    - Outside brackets no line starts with a tab.
    - Controls other than tab and line breaks are refused everywhere.
    - Line breaks inside a scalar are folded: a single one becomes a
      blank, of several the first is dropped.  The separators U+2028 and
      U+2029 break lines too, but stay in the text.
    - An escape stands for a whole character, never for half of one.

  Every function takes the text that is left and gives back what it has
  read and the text behind it, as the reader of JSON does.
-/
import ContentGate.Yaml.Basic

namespace ContentGate.Yaml

open ContentGate.Text

/-! ## Characters -/

/-- A blank inside a line. -/
def isBlank (c : Char) : Bool := c == ' ' || c == '\t'

/-- A line break. -/
def isBreak (c : Char) : Bool := ['\n', '\r', '\u0085', '\u2028', '\u2029'].contains c

/-- The characters that a file may hold. -/
def isAllowed (c : Char) : Bool :=
  let n := c.toNat
  isBlank c || isBreak c || (32 ≤ n && n ≤ 126) || (0xA0 ≤ n && n ≤ 0xFFFD) || 0x10000 ≤ n

/-- A blank, a line break or the end of the text. -/
def atGap (cs : List Char) : Bool := (cs.head?.map fun c => isBlank c || isBreak c).getD true

/-- The text without the blanks, line breaks and comments at its head.
Outside brackets a tab is a blank only behind something on its line. -/
def skip (inBrackets : Bool) : (tabs comment : Bool) → List Char → List Char
  | _, _, [] => []
  | tabs, comment, c :: cs =>
    if isBreak c then skip inBrackets inBrackets false cs
    else if comment || c == ' ' || (tabs && c == '\t') then skip inBrackets tabs comment cs
    else if c == '#' then skip inBrackets tabs true cs
    else c :: cs

/-- The text between brackets without its leading blanks. -/
def skipInside (cs : List Char) : List Char := skip true true false cs

/-! ## Folding -/

/-- What stands between two words of a scalar. -/
inductive Gap where
  /-- Blanks of one line. -/
  | blanks (cs : List Char)
  /-- Line breaks: the first, unless it was escaped, and the others. -/
  | breaks (first : Option Char) (more : List Char)

namespace Gap

/-- Nothing between two characters. -/
def none : Gap := .blanks []

/-- A gap with one more blank; blanks next to a line break do not count. -/
def addBlank (c : Char) : Gap → Gap
  | .blanks cs => .blanks (cs ++ [c])
  | g => g

/-- A gap with one more line break. -/
def addBreak (c : Char) : Gap → Gap
  | .blanks _ => .breaks (some (kept c)) []
  | .breaks first more => .breaks first (more ++ [kept c])
where
  /-- A break in the text: separators stay, the others are line feeds. -/
  kept (c : Char) : Char := if c == '\u2028' || c == '\u2029' then c else '\n'

/-- The text of a gap. -/
def text : Gap → List Char
  | .blanks cs => cs
  | .breaks Option.none more => more
  | .breaks (some '\n') [] => [' ']
  | .breaks (some '\n') more => more
  | .breaks (some c) more => c :: more

/-- Is there nothing in the gap? -/
def isNone : Gap → Bool
  | .blanks [] => true
  | _ => false

end Gap

/-! ## Scalars -/

/-- The characters that end a plain scalar. -/
def isFlowMark (c : Char) : Bool := [',', '[', ']', '\x7b', '\x7d'].contains c

/-- The characters that start no plain scalar. -/
def isIndicator (c : Char) : Bool :=
  isFlowMark c || ['?', ':', '#', '&', '*', '!', '|', '>', '\'', '"', '%', '@', '\x60'].contains c

/-- The rest of a plain scalar.  What stands behind its last word belongs
to no scalar. -/
def plainRest? (gap : Gap) : List Char → Option (List Char × List Char)
  | [] => some ([], [])
  | c :: cs =>
    if isBlank c then plainRest? (gap.addBlank c) cs
    else if isBreak c then
      if c == '\r' && cs.head? == some '\n' then plainRest? gap cs
      else plainRest? (gap.addBreak c) cs
    else if isFlowMark c || (c == '#' && !gap.isNone) || (c == ':' && atGap cs) then
      some ([], c :: cs)
    else if c == ':' && cs.head?.any fun d => isFlowMark d || d == '?' then none
    else (plainRest? .none cs).map fun (word, rest) => (gap.text ++ c :: word, rest)

/-- A plain scalar. -/
def plain? : List Char → Option (List Char × List Char)
  | [] => none
  | c :: cs =>
    if isIndicator c || (c == '-' && atGap cs) then none else plainRest? .none (c :: cs)

/-- The character of a short escape. -/
def shortEscape? (c : Char) : Option Char :=
  (shortEscapes.find? (·.1 == c)).map (·.2)
where
  /-- The short escapes. -/
  shortEscapes : List (Char × Char) := [
    ('0', '\x00'), ('a', '\x07'), ('b', '\x08'), ('t', '\t'), ('\t', '\t'), ('n', '\n'),
    ('v', '\x0b'), ('f', '\x0c'), ('r', '\r'), ('e', '\x1b'), (' ', ' '), ('"', '"'), ('/', '/'),
    ('\\', '\\'), ('N', '\u0085'), ('_', '\u00a0'), ('L', '\u2028'), ('P', '\u2029')]

/-- How many digits the number of a long escape has. -/
def longEscape? (c : Char) : Option Nat :=
  if c == 'x' then some 2 else if c == 'u' then some 4 else if c == 'U' then some 8 else none

/-- What an escape stands for, and how many characters it takes behind
the backslash.  An escaped line break stands for nothing. -/
def escape? : List Char → Option (Option Char × Nat)
  | [] => none
  | e :: cs =>
    if isBreak e then some (none, if e == '\r' && cs.head? == some '\n' then 2 else 1)
    else
      match shortEscape? e, longEscape? e with
      | some c, _ => some (some c, 1)
      | none, some width =>
        match (digitsIn? 16 (cs.take width)).filter fun n => width ≤ cs.length && n.isValidChar with
        | some n => some (some (Char.ofNat n), width + 1)
        | none => none
      | none, none => none

/-- The rest of a scalar between quotes, up to the closing quote.  The
first `taken` characters belong to an escape already read. -/
def quotedRest? (quote : Char) (gap : Gap) :
    (taken : Nat) → List Char → Option (List Char × List Char)
  | _, [] => none
  | taken + 1, _ :: cs => quotedRest? quote gap taken cs
  | 0, c :: cs =>
    if isBlank c then quotedRest? quote (gap.addBlank c) 0 cs
    else if isBreak c then
      if c == '\r' && cs.head? == some '\n' then quotedRest? quote gap 0 cs
      else quotedRest? quote (gap.addBreak c) 0 cs
    else if c == quote then
      if quote == '\'' && cs.head? == some '\'' then
        (quotedRest? quote .none 1 cs).map fun (s, rest) => (gap.text ++ '\'' :: s, rest)
      else some (gap.text, cs)
    else if c == '\\' && quote == '"' then
      match escape? cs with
      | some (some c, taken) =>
        (quotedRest? quote .none taken cs).map fun (s, rest) => (gap.text ++ c :: s, rest)
      | some (none, taken) =>
        (quotedRest? quote (.breaks none []) taken cs).map fun (s, rest) => (gap.text ++ s, rest)
      | none => none
    else (quotedRest? quote .none 0 cs).map fun (s, rest) => (gap.text ++ c :: s, rest)

/-! ## Nodes -/

/-- Can the text between the start of a key and its colon stand there? -/
def isKeyText (cs : List Char) : Bool := utf8Length cs ≤ 1024 && !cs.any isBreak

mutual

/-- The node at the head of the text. -/
def readNode? : (fuel : Nat) → List Char → Option (Yaml × List Char)
  | 0, _ => none
  | _ + 1, '"' :: rest =>
    (quotedRest? '"' .none 0 rest).map fun (s, rest) => (.scalar true (String.ofList s), rest)
  | _ + 1, '\'' :: rest =>
    (quotedRest? '\'' .none 0 rest).map fun (s, rest) => (.scalar true (String.ofList s), rest)
  | fuel + 1, '[' :: rest =>
    (readItems? fuel (skipInside rest)).map fun (items, rest) => (.sequence items, rest)
  | fuel + 1, '\x7b' :: rest =>
    (readEntries? fuel (skipInside rest)).map fun (es, rest) => (.mapping es, rest)
  | _ + 1, rest => (plain? rest).map fun (s, rest) => (.scalar false (String.ofList s), rest)

/-- A node and, behind a colon, the value for which it is the key; a
value may be missing.  The text behind them starts with no blank. -/
def readPair? : (fuel : Nat) → List Char → Option (Yaml × Option Yaml × List Char)
  | 0, _ => none
  | fuel + 1, cs => do
    let (key, rest) ← readNode? fuel cs
    match skipInside rest with
    | ':' :: more =>
      if !isKeyText (cs.take (cs.length - (more.length + 1))) then none
      match skipInside more with
      | ',' :: rest => some (key, some empty, ',' :: rest)
      | ']' :: rest => some (key, some empty, ']' :: rest)
      | '\x7d' :: rest => some (key, some empty, '\x7d' :: rest)
      | more =>
        let (value, rest) ← readNode? fuel more
        some (key, some value, skipInside rest)
    | rest => some (key, none, rest)

/-- Items up to the closing bracket.  A pair among them is a mapping. -/
def readItems? : (fuel : Nat) → List Char → Option (List Yaml × List Char)
  | 0, _ => none
  | _ + 1, ']' :: rest => some ([], rest)
  | fuel + 1, cs => do
    let (node, value?, rest) ← readPair? fuel cs
    let item := match value? with
      | some value => .mapping [(node, value)]
      | none => node
    match rest with
    | ',' :: rest =>
      let (items, rest) ← readItems? fuel (skipInside rest)
      some (item :: items, rest)
    | ']' :: rest => some ([item], rest)
    | _ => none

/-- Entries up to the closing brace. -/
def readEntries? : (fuel : Nat) → List Char → Option (List (Yaml × Yaml) × List Char)
  | 0, _ => none
  | _ + 1, '\x7d' :: rest => some ([], rest)
  | fuel + 1, cs => do
    let (key, value?, rest) ← readPair? fuel cs
    let entry := (key, value?.getD empty)
    match rest with
    | ',' :: rest =>
      let (es, rest) ← readEntries? fuel (skipInside rest)
      some (entry :: es, rest)
    | '\x7d' :: rest => some ([entry], rest)
    | _ => none

end

/-! ## Files -/

/-- The text without a byte order mark. -/
def withoutMark : List Char → List Char
  | '\ufeff' :: cs => cs
  | cs => cs

/-- The node that a file's text holds: the empty scalar, or a sequence or
mapping. -/
def read? (text : String) : Option Yaml :=
  let cs := withoutMark text.toList
  if !cs.all isAllowed then none
  else
    match skip false false false cs with
    | [] => some empty
    | c :: rest =>
      if c == '[' || c == '\x7b' then
        match readNode? (3 * text.length + 3) (c :: rest) with
        | some (node, rest) => if (skip false true false rest).isEmpty then some node else none
        | none => none
      else none

end ContentGate.Yaml
