import GridBeans.Text.Digits
import GridBeans.Yaml.Folding

/-!
# Scalars that may stand on one line

Scalars in single or double quotes, and plain ones. The functions give the text of the scalar that
starts at a place, and the place behind it; nothing if the scalar is not well-formed.
-/
namespace GridBeans.Yaml

/-- The characters after a backslash that stand for one character. -/
def escapedChar? (c : Char) : Option Char :=
  match c with
  | '0' => some '\x00'
  | 'a' => some '\x07'
  | 'b' => some '\x08'
  | 't' | '\t' => some '\t'
  | 'n' => some '\n'
  | 'v' => some '\x0b'
  | 'f' => some '\x0c'
  | 'r' => some '\r'
  | 'e' => some '\x1b'
  | ' ' => some ' '
  | '"' => some '"'
  | '/' => some '/'
  | '\\' => some '\\'
  | 'N' => some '\u0085'
  | '_' => some '\u00a0'
  | 'L' => some '\u2028'
  | 'P' => some '\u2029'
  | _ => none

/-- The number of hexadecimal digits after an escape that gives a code. -/
def codeLength? (c : Char) : Option Nat :=
  match c with
  | 'x' => some 2
  | 'u' => some 4
  | 'U' => some 8
  | _ => none

/-- The character that an escape stands for, and its length without the backslash. -/
def readEscape? : List Char → Option (Char × Nat)
  | [] => none
  | c :: rest =>
    match escapedChar? c, codeLength? c with
    | some e, _ => some (e, 1)
    | none, some length => do
      let digits := rest.take length
      let code ← Text.number? 16 digits
      if digits.length = length && code.isValidChar then pure (Char.ofNat code, length + 1)
      else none
    | none, none => none

/-- Reads a quoted scalar behind its opening quote, in or after a gap. -/
def quotedFrom (single : Bool) : Nat → Bool → Place → Folding → Option (String × Place)
  | 0, _, _, _ => none
  | fuel + 1, inGap, p, f =>
    match p.rest with
    | [] => none
    | c :: rest =>
      if inGap then
        if isBlank c then quotedFrom single fuel true (p.skip 1) (f.blank c)
        else if isBreak c then quotedFrom single fuel true p.skipBreak (f.lineBreak p.breakText)
        else quotedFrom single fuel false p f.join
      else if p.atDocumentMark then none
      else if isBlank c || isBreak c then quotedFrom single fuel true p f
      else if single then
        match c, rest with
        | '\'', '\'' :: _ => quotedFrom single fuel false (p.skip 2) (f.push '\'')
        | '\'', _ => some (f.result, p.skip 1)
        | _, _ => quotedFrom single fuel false (p.skip 1) (f.push c)
      else if c = '"' then some (f.result, p.skip 1)
      else if c = '\\' then
        if !rest.isEmpty && atBreak rest then
          quotedFrom single fuel true (p.skip 1).skipBreak { f with broken := true }
        else
          match readEscape? rest with
          | some (e, length) => quotedFrom single fuel false (p.skip (length + 1)) (f.push e)
          | none => none
      else quotedFrom single fuel false (p.skip 1) (f.push c)

def quotedScalar (single : Bool) (p : Place) : Option (String × Place) :=
  quotedFrom single (2 * p.size + 2) false (p.skip 1) .empty

/-- The characters that end a plain scalar inside brackets. -/
def isFlowMark (c : Char) : Bool :=
  c = ',' || c = '[' || c = ']' || c = '\x7b' || c = '\x7d'

/-- Reads a plain scalar with the gap behind it. -/
def plainFrom (inFlow : Bool) (indent : Int) :
    Nat → Bool → Place → Folding → Option (Folding × Place)
  | 0, _, _, _ => none
  | fuel + 1, inGap, p, f =>
    let done := some (f, p)
    match p.rest with
    | [] => done
    | c :: rest =>
      if inGap then
        if isBlank c then
          if f.broken && (p.column : Int) < indent && c = '\t' then none
          else plainFrom inFlow indent fuel true (p.skip 1) (f.blank c)
        else if isBreak c then
          plainFrom inFlow indent fuel true p.skipBreak (f.lineBreak p.breakText)
        else if !inFlow && (p.column : Int) < indent then done
        else if c = '#' then done
        else plainFrom inFlow indent fuel false p f
      else if p.atDocumentMark then done
      else if isBlank c || isBreak c then plainFrom inFlow indent fuel true p f
      else if inFlow && c = ':' && (rest.head?.any fun d => isFlowMark d || d = '?') then none
      else if (c = ':' && atGap rest) || (inFlow && isFlowMark c) then done
      else
        plainFrom inFlow indent fuel false (p.skip 1)
          ((if f.broken || !f.blanks.isEmpty then f.join else f).push c)

/-- The plain scalar at a place, inside a block of the given indentation. Also says whether a break
was passed behind it. -/
def plainScalar (inFlow : Bool) (indent : Int) (p : Place) : Option (String × Place × Bool) :=
  (plainFrom inFlow (indent + 1) (2 * p.size + 2) false p .empty).map fun (f, p) =>
    (f.result, p, f.broken)

end GridBeans.Yaml
