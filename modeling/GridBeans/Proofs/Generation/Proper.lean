import GridBeans.Proofs.Generation.Script
import GridBeans.Proofs.Generation.Value

/-!
# Proper scripts

A script is proper if every piece it writes is, if the pieces it has written when it succeeds are
whole, and if the data sources it registers are named over the class of characters. Scripts are put
together from proper ones in ways that keep them proper.
-/
namespace GridBeans.Generation

open GridBeans.Markup GridBeans.Xml

/-- The data source can be declared: its id is over the class, and its class needs no escapes. -/
structure DataSource.Proper (P : Char → Prop) (s : DataSource) : Prop where
  beanId : Over P s.beanId
  className : Plain s.className

structure Script.Proper {α : Type} (P : Char → Prop) (x : Script α) : Prop where
  pieces : ∀ p ∈ x.pieces, p.Proper P
  /-- A script may fail inside an element, so only a success closes all of them. -/
  whole : ∀ a, x.outcome = .ok a → Whole x.pieces
  sources : ∀ s ∈ x.sources, s.Proper P

namespace Script

variable {P : Char → Prop} {α β : Type}

/-! ## Sequences -/

theorem Proper.ofExcept (outcome : Except Failure α) : (Script.ofExcept outcome).Proper P :=
  ⟨nofun, fun _ _ => .nil, nofun⟩

theorem Proper.pure (a : α) : (Pure.pure a : Script α).Proper P :=
  ⟨nofun, fun _ _ => .nil, nofun⟩

theorem Proper.fail (e : Failure) : (Script.fail e : Script α).Proper P :=
  ⟨nofun, fun _ _ => .nil, nofun⟩

/-- A script that goes on is proper, if it is for every result that the first part can really have.
-/
theorem Proper.bind {x : Script α} {f : α → Script β} (first : x.Proper P)
    (second : ∀ a, x.outcome = .ok a → (f a).Proper P) : (x >>= f).Proper P := by
  cases result : x.outcome with
  | error e =>
    have pieces : (x >>= f).pieces = x.pieces := by simp [pieces_bind, result]
    have sources : (x >>= f).sources = x.sources := by
      simp [sources_bind, result]
    refine ⟨pieces ▸ first.pieces, fun b succeeds => ?_, sources ▸ first.sources⟩
    rw [outcome_bind, result] at succeeds
    cases succeeds
  | ok a =>
    have second := second a result
    have pieces : (x >>= f).pieces = x.pieces ++ (f a).pieces := by simp [pieces_bind, result]
    have sources : (x >>= f).sources = x.sources ++ (f a).sources := by
      simp [sources_bind, result]
    refine ⟨?_, fun b succeeds => ?_, ?_⟩
    · rw [pieces]
      exact List.forall_mem_append.mpr ⟨first.pieces, second.pieces⟩
    · rw [outcome_bind, result] at succeeds
      rw [pieces]
      exact .append (first.whole a result) (second.whole b succeeds)
    · rw [sources]
      exact List.forall_mem_append.mpr ⟨first.sources, second.sources⟩

theorem Proper.next {x : Script α} {y : Script β} (first : x.Proper P) (second : y.Proper P) :
    (x >>= fun _ => y).Proper P :=
  first.bind fun _ _ => second

theorem Proper.discard {x : Script α} (proper : x.Proper P) : (discard x).Proper P :=
  proper.bind fun _ _ => .pure ()

theorem Proper.onlyIf {condition : Prop} [Decidable condition] {x : Script Unit}
    (proper : condition → x.Proper P) : (Script.onlyIf condition x).Proper P := by
  unfold Script.onlyIf
  split
  · rename_i holds
    exact proper holds
  · exact .pure ()

theorem Proper.forSome {value : Option α} {f : α → Script Unit}
    (each : ∀ a, value = some a → (f a).Proper P) : (Script.forSome value f).Proper P := by
  cases value with
  | none => exact .pure ()
  | some a => exact each a rfl

theorem Proper.forEach {items : List α} {f : α → Script Unit}
    (each : ∀ a ∈ items, (f a).Proper P) : (Script.forEach items f).Proper P := by
  induction items with
  | nil => exact .pure ()
  | cons a rest ih =>
    rw [Script.forEach]
    exact (each a List.mem_cons_self).next (ih fun b mem => each b (List.mem_cons_of_mem a mem))

/-! ## Marks -/

theorem Proper.spacing {m : Mark} (spacing : m.piece? = none) : (Script.mark m).Proper P := by
  have nothing : (Script.mark m).pieces = [] := by
    simp [Script.pieces, Script.marks, Script.mark, Step.mark?, spacing]
  exact ⟨nothing ▸ nofun, fun _ _ => nothing ▸ .nil, nofun⟩

theorem Proper.blank : Script.blank.Proper P := .spacing rfl

theorem Proper.requestBlank : Script.requestBlank.Proper P := .spacing rfl

theorem Proper.sectionStart : Script.sectionStart.Proper P := .spacing rfl

theorem Proper.line {p : Piece} (proper : p.Proper P) (whole : Whole [p]) :
    (Script.line p).Proper P :=
  ⟨List.forall_mem_singleton.mpr proper, fun _ _ => whole, nofun⟩

theorem Proper.register {s : DataSource} (proper : s.Proper P) : (Script.register s).Proper P :=
  ⟨nofun, fun _ _ => .nil, List.forall_mem_singleton.mpr proper⟩

theorem Proper.forEachSpaced {items : List α} {f : α → Script Unit}
    (each : ∀ a ∈ items, (f a).Proper P) : (Script.forEachSpaced items f).Proper P := by
  induction items with
  | nil => exact .pure ()
  | cons a rest ih =>
    have first := each a List.mem_cons_self
    have others := ih fun b mem => each b (List.mem_cons_of_mem a mem)
    cases rest with
    | nil => exact first
    | cons b rest => exact first.next (Proper.blank.next others)

/-! ## Elements -/

/-- An element is proper, if its start tag is and everything inside it. -/
theorem Proper.block {element : String} {attributes : List Attribute} {body : Script Unit}
    (start : (Piece.startTag element attributes).Proper P) (proper : body.Proper P) :
    (Script.block element attributes body).Proper P := by
  refine ⟨?_, fun a succeeds => ?_, ?_⟩
  · rw [pieces_block]
    refine List.forall_mem_cons.mpr ⟨start, List.forall_mem_append.mpr ⟨proper.pieces, ?_⟩⟩
    split
    · exact List.forall_mem_singleton.mpr start.1
    · exact List.forall_mem_nil _
  · rw [outcome_block] at succeeds
    rw [pieces_block, succeeds]
    exact .element element attributes (proper.whole a succeeds)
  · rw [sources_block]
    exact proper.sources

end Script

end GridBeans.Generation
