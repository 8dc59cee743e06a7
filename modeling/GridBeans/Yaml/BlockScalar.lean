import GridBeans.Yaml.Place

/-!
# Block scalars

Scalars whose text is a block of indented lines, either kept as they are or folded. The header may
set the indentation, and what becomes of the breaks at the end.
-/
namespace GridBeans.Yaml

/-- What becomes of the breaks at the end of a block scalar. -/
inductive Chomping where
  /-- The last one stays. -/
  | clip
  /-- None stays. -/
  | strip
  /-- All stay. -/
  | keep
  deriving DecidableEq, Repr

/-- The header of a block scalar: the indentation it sets, and what becomes of final breaks. -/
structure BlockHeader where
  increment : Option Nat
  chomping : Chomping
  deriving DecidableEq, Repr

def chomping? : List Char → Option Chomping
  | '+' :: _ => some .keep
  | '-' :: _ => some .strip
  | _ => none

/-- The digit that sets the indentation; zero is not allowed. -/
def increment? : List Char → Option (Option Nat)
  | c :: _ =>
    if c = '0' then none
    else if c.isDigit then some (some (c.toNat - 48))
    else some none
  | [] => some none

/-- Reads the two indicators of a header, which may come in either order. -/
def readBlockHeader (p : Place) : Option (BlockHeader × Place) :=
  match chomping? p.rest with
  | some chomping => do
    let p := p.skip 1
    let increment ← increment? p.rest
    pure (⟨increment, chomping⟩, p.skip (if increment.isSome then 1 else 0))
  | none => do
    let increment ← increment? p.rest
    match increment with
    | none => pure (⟨none, .clip⟩, p)
    | some _ =>
      let p := p.skip 1
      match chomping? p.rest with
      | some chomping => pure (⟨increment, chomping⟩, p.skip 1)
      | none => pure (⟨increment, .clip⟩, p)

/-- Reads the breaks ahead of a line, with the indentation before it; `indent` is zero as long as it
is not known. Gives the breaks, the largest column reached, and the place. -/
def readBreaks (indent : Nat) :
    Nat → Place → List Char → Nat → Option (List Char × Nat × Place)
  | 0, _, _, _ => none
  | fuel + 1, p, breaks, widest =>
    let spaces := (p.rest.takeWhile (· = ' ')).length
    let p := p.skip (if indent = 0 then spaces else min spaces (indent - p.column))
    let widest := max widest p.column
    match p.rest with
    | [] => some (breaks, widest, p)
    | c :: _ =>
      if c = '\t' && (indent = 0 || p.column < indent) then none
      else if isBreak c then
        readBreaks indent fuel p.skipBreak (breaks ++ p.breakText) widest
      else some (breaks, widest, p)

/-- The indentation of a block whose header does not set it. -/
def foundIndent (parent : Int) (widest : Nat) : Nat :=
  max (max widest (parent + 1).toNat) 1

/-- The text of a block so far, in reverse, and the breaks behind it. -/
structure BlockText where
  text : List Char
  lastBreak : List Char
  moreBreaks : List Char
  /-- The last line started with a blank. -/
  startedBlank : Bool
  deriving DecidableEq, Repr

/-- The breaks between two lines, the second one starting with a blank or not. Folding makes a space
of a single break, or drops the first one of several, where neither line starts with a blank. -/
def BlockText.between (b : BlockText) (folded startsBlank : Bool) : List Char :=
  if folded && b.lastBreak = ['\n'] && !b.startedBlank && !startsBlank then
    if b.moreBreaks.isEmpty then [' '] else b.moreBreaks
  else b.lastBreak ++ b.moreBreaks

def readLines (folded : Bool) (indent : Nat) :
    Nat → Place → BlockText → Option (BlockText × Place)
  | 0, _, _ => none
  | fuel + 1, p, b =>
    match p.rest with
    | [] => some (b, p)
    | c :: _ =>
      if p.column ≠ indent then some (b, p)
      else do
        let line := p.rest.takeWhile fun c => !isBreak c
        let text := line.reverse ++ (b.between folded (isBlank c)).reverse ++ b.text
        let p := p.skip line.length
        let (breaks, _, p') ← readBreaks indent (p.size + 1) p.skipBreak [] 0
        readLines folded indent fuel p' ⟨text, p.breakText, breaks, isBlank c⟩

/-- The block scalar whose indicator is at a place, inside a block of an indentation. -/
def blockScalar (folded : Bool) (parent : Int) (p : Place) : Option (String × Place) := do
  let (header, p) ← readBlockHeader (p.skip 1)
  let p := (p.skipWhile isBlank).skipComment
  if !atBreak p.rest then none
  let p := p.skipBreak
  let set := match header.increment with
    | some increment => (if 0 ≤ parent then parent.toNat else 0) + increment
    | none => 0
  let (breaks, widest, p) ← readBreaks set (p.size + 1) p [] 0
  let indent := if set = 0 then foundIndent parent widest else set
  let (b, p) ← readLines folded indent (p.size + 1) p ⟨[], [], breaks, false⟩
  let last := match header.chomping with
    | .strip => []
    | .clip => b.lastBreak
    | .keep => b.lastBreak ++ b.moreBreaks
  pure (String.ofList (b.text.reverse ++ last), p)

end GridBeans.Yaml
