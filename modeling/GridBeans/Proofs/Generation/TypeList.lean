import GridBeans.Proofs.Effect
import GridBeans.Proofs.Generation.Outlined

/-!
# The list of types

Of the types of a cache, those for queries ahead of those for the store, the ones are written whose
name does not occur earlier. The generator finds them with a set of the names it has seen; here they
are told by their place in the list, and the two are the same as long as the set has the names of
the types that are behind.
-/
namespace GridBeans.Config

/-! ## First occurrences -/

/-- The types whose name does not occur earlier in the list. -/
def firstOccurrences (types : List TypeMetadata) : List TypeMetadata :=
  (types.zipIdx.filter fun (t, place) =>
    t.name ∉ (types.take place).map TypeMetadata.name).map Prod.fst

/-- The types whose name occurs neither in front nor earlier in the list. -/
def firstBehind (front types : List TypeMetadata) : List TypeMetadata :=
  (types.zipIdx.filter fun (t, place) =>
    t.name ∉ (front ++ types.take place).map TypeMetadata.name).map Prod.fst

/-- One type goes from the list to the front, and stays if its name is new. -/
theorem firstBehind_cons (front : List TypeMetadata) (t : TypeMetadata)
    (rest : List TypeMetadata) :
    firstBehind front (t :: rest) =
      (if t.name ∈ front.map TypeMetadata.name then [] else [t]) ++
        firstBehind (front ++ [t]) rest := by
  have places : (t :: rest).zipIdx = (t, 0) :: rest.zipIdx.map fun p => (p.1, p.2 + 1) := by
    rw [List.zipIdx_cons, List.zipIdx_succ]
  have later : ∀ place, front ++ (t :: rest).take (place + 1) =
      (front ++ [t]) ++ rest.take place := fun place => by
    rw [List.take_succ_cons, List.append_assoc, List.singleton_append]
  simp only [firstBehind, places, List.filter_cons, List.filter_map, Function.comp_def, later,
    List.take_zero, List.append_nil]
  by_cases known : t.name ∈ front.map TypeMetadata.name
  · simp [known, Function.comp_def]
  · simp [known, Function.comp_def]

/-- The set of names seen so far has the names of the types in front. -/
theorem firstByName_eq_firstBehind {seen : List String} {front : List TypeMetadata}
    (invariant : ∀ name, name ∈ seen ↔ name ∈ front.map TypeMetadata.name)
    (types : List TypeMetadata) : Generation.firstByName seen types = firstBehind front types := by
  induction types generalizing seen front with
  | nil => rfl
  | cons t rest ih =>
    rw [Generation.firstByName, firstBehind_cons]
    -- The front takes each type, the set only a name that is new: the names stay the same.
    by_cases known : t.name ∈ seen
    · have goesOn : ∀ name, name ∈ seen ↔ name ∈ (front ++ [t]).map TypeMetadata.name := by
        intro name
        rw [List.map_append, List.mem_append, ← invariant, List.map_singleton, List.mem_singleton]
        exact ⟨.inl, fun either => either.elim id (· ▸ known)⟩
      rw [if_pos (List.contains_iff_mem.mpr known), if_pos ((invariant _).mp known), ih goesOn,
        List.nil_append]
    · have goesOn : ∀ name, name ∈ t.name :: seen ↔
          name ∈ (front ++ [t]).map TypeMetadata.name := by
        intro name
        rw [List.map_append, List.mem_append, ← invariant, List.map_singleton, List.mem_singleton,
          List.mem_cons, or_comm]
      rw [if_neg (mt List.contains_iff_mem.mp known), if_neg (mt (invariant _).mpr known),
        ih goesOn, List.singleton_append]

/-- Going through the types with the names seen so far keeps exactly the first occurrences. -/
theorem firstByName_eq_firstOccurrences (types : List TypeMetadata) :
    Generation.firstByName [] types = firstOccurrences types := by
  have start : ∀ name, name ∈ ([] : List String) ↔
      name ∈ ([] : List TypeMetadata).map TypeMetadata.name := fun _ => Iff.rfl
  exact firstByName_eq_firstBehind start types

/-- The first occurrences, found by place, are the first types of each name that other results speak
of. -/
theorem firstOccurrences_eq (types : List TypeMetadata) :
    firstOccurrences types = firstOfName types := by
  rw [← firstByName_eq_firstOccurrences, Generation.firstByName_eq]
  exact List.filter_eq_self.mpr fun _ _ => by simp

/-- Of the types of one name, exactly the first one is left. -/
theorem filter_firstOfName (name : String) (types : List TypeMetadata) :
    (firstOfName types).filter (·.name = name) = (types.find? (·.name = name)).toList := by
  induction types with
  | nil => rfl
  | cons t rest ih =>
    rw [firstOfName, List.filter_cons, List.filter_filter, List.find?_cons]
    by_cases same : t.name = name
    · have noneLater : ∀ later ∈ firstOfName rest,
          ¬ (decide (later.name = name) && decide (later.name ≠ t.name)) = true := by
        intro later _
        simp only [same, Bool.and_eq_true, decide_eq_true_eq, not_and, ne_eq, not_not, imp_self]
      rw [List.filter_eq_nil_iff.mpr noneLater]
      simp [same]
    · have sameLater : ∀ later ∈ firstOfName rest,
          (decide (later.name = name) && decide (later.name ≠ t.name)) =
            decide (later.name = name) := by
        intro later _
        by_cases named : later.name = name
        · simp [named, Ne.symm same]
        · simp [named]
      rw [List.filter_congr sameLater, ih]
      simp [same]

end GridBeans.Config

namespace GridBeans.Generation

open GridBeans.Markup GridBeans.Config

/-! ## The list on a sheet -/

/-- The list of types around the lines of their beans. -/
def typeListAround (depth : Nat) (beans : List Line) : List Line :=
  .content depth (.startTag "property" [writtenAttr "name" "typeMetadata"]) ::
    .content (depth + 1) (.startTag "list" []) ::
      (beans ++ [.content (depth + 1) (.endTag "list"), .content depth (.endTag "property")])

/-- The section of types has a bean for each first occurrence in both lists, those for queries
ahead. -/
theorem typeEntriesLines_eq (query store : List TypeMetadata) :
    typeEntriesLines query store =
      if query ++ store = [] then []
      else propertyAround "typeMetadata" (elementLines "list" []
        ((firstOccurrences (query ++ store)).flatMap typeEntryLines)) := by
  rw [typeEntriesLines, containerLines, firstByName_eq_firstOccurrences]
  refine if_congr ?_ rfl rfl
  rw [firstOccurrences_eq]
  cases query ++ store with
  | nil => exact ⟨fun _ => rfl, fun _ => rfl⟩
  | cons t rest => simp [firstOfName, typeEntryLines, beanAround, elementLines]

/-- Set deeper, the list has each type as it is written two levels below. -/
theorem deeper_typeList (types : List TypeMetadata) (depth : Nat) :
    deeper depth (propertyAround "typeMetadata"
        (elementLines "list" [] (types.flatMap typeEntryLines))) =
      typeListAround depth (types.flatMap fun t =>
        ((typeEntry t).runOn (Sheet.empty (depth + 2))).lines) := by
  have each : ∀ t : TypeMetadata, ((typeEntry t).runOn (Sheet.empty (depth + 2))).lines =
      deeper (depth + 2) (typeEntryLines t) := fun t => lines_typeEntry t _
  have inside : deeper (depth + 2) (types.flatMap typeEntryLines) =
      types.flatMap fun t => ((typeEntry t).runOn (Sheet.empty (depth + 2))).lines := by
    simp only [each, deeper, List.map_flatMap]
  have two : 1 + 1 + depth = depth + 2 := by omega
  have one : 1 + depth = depth + 1 := by omega
  simp only [propertyAround, elementLines, deeper_cons, deeper_append, deeper_nil, deeper_deeper,
    Line.deeper, Nat.zero_add, two, one, inside, typeListAround, List.cons_append,
    List.append_assoc, List.nil_append]

/-- The types of a cache are written to any sheet as one list, with a bean for each type whose name
does not occur earlier, as it is written alone; where there are no types the sheet stays as it is.
So each name is written once, for queries if it is described for queries, and the same script comes
of both lists in one and of the types that are written. -/
theorem typeEntries_first_occurrences (query store : List TypeMetadata) :
    (∀ sheet : Sheet, (typeEntries query store).runOn sheet =
      if query = [] ∧ store = [] then sheet
      else
        ⟨sheet.lines ++ ((if sheet.cursor.blankDue then [.blank] else []) ++
            typeListAround sheet.cursor.depth ((firstOccurrences (query ++ store)).flatMap fun t =>
              ((typeEntry t).runOn (Sheet.empty (sheet.cursor.depth + 2))).lines)),
          sheet.cursor.settled⟩) ∧
    (∀ name : String, (firstOccurrences (query ++ store)).filter (·.name = name) =
      ((query.find? (·.name = name)).or (store.find? (·.name = name))).toList) ∧
    typeEntries (query ++ store) [] = typeEntries query store ∧
    typeEntries (firstOccurrences (query ++ store)) [] = typeEntries query store := by
  refine ⟨fun sheet => ?_, fun name => ?_, ?_, ?_⟩
  · rw [(typeEntries_opens query store).runOn_eq (failure?_typeEntries query store) sheet,
      typeEntriesLines_eq]
    simp only [List.append_eq_nil_iff]
    split
    · simp
    · have filled : propertyAround "typeMetadata" (elementLines "list" []
          ((firstOccurrences (query ++ store)).flatMap typeEntryLines)) ≠ [] :=
        elementLines_ne_nil _ _ _
      rw [deeper_typeList, Cursor.behind_of_ne_nil _ filled, Cursor.ahead_of_ne_nil _ filled]
  · rw [firstOccurrences_eq, filter_firstOfName, List.find?_append]
  · rw [typeEntries_eq, typeEntries_eq, List.append_nil]
  · rw [typeEntries_eq, typeEntries_eq, List.append_nil, firstOccurrences_eq, isEmpty_firstOfName,
      firstOfName_firstOfName]

-- A name is repeated within the first list and in the second one.
example : (firstOccurrences ([namedType "A" .query, namedType "B" .both, namedType "A" .both] ++
    [namedType "B" .store, namedType "C" .store])).map (fun t => (t.name, t.kind)) =
      [("A", some .query), ("B", some .both), ("C", some .store)] := by decide

end GridBeans.Generation
