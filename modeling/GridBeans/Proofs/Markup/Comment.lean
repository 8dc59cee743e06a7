import GridBeans.Markup.Escape
import GridBeans.Proofs.Xml.Grammar

/-!
# The text of a comment

A comment's text is written with one space between each two hyphens that meet, and is left alone
otherwise. Whether a space is written depends on what is already there, but it comes to the same as
looking at each two neighbours in the text (`spaceHyphens_cons_cons`), and everything here follows
from that: no hyphens meet in what is written, it is the text cut where they met, and a text in
which they do not meet stays as it is.
-/
namespace GridBeans.Markup

open GridBeans.Xml

/-! ## Hyphens that meet -/

/-- No hyphen follows a hyphen exactly if two of them in a row occur nowhere in the text. -/
theorem hyphensApart_iff {cs : List Char} : HyphensApart cs ↔ ¬ "--".toList <:+: cs := by
  rw [HyphensApart, List.isChain_iff_forall_rel_of_append_cons_cons]
  constructor
  · rintro apart ⟨front, back, same⟩
    have split : cs = front ++ '-' :: '-' :: back := by simpa using same.symm
    exact apart split rfl rfl
  · rintro noPair c d front back split rfl rfl
    exact noPair ⟨front, back, by simp [split]⟩

theorem hyphensApart_of_not_mem {cs : List Char} (free : '-' ∉ cs) : HyphensApart cs :=
  hyphensApart_iff.mpr fun pair => free (pair.subset (by simp))

/-- Spaces around a text end every run of hyphens at its ends. -/
theorem hyphensApart_padded {cs : List Char} (apart : HyphensApart cs) :
    HyphensApart ((' ' :: (cs ++ [' '])) ++ ['-']) := by
  have tail : HyphensApart [' ', '-'] := by simp [HyphensApart]
  have padded : HyphensApart (cs ++ [' ', '-']) :=
    List.isChain_append.mpr ⟨apart, tail, by simp⟩
  rw [List.cons_append, List.append_assoc]
  exact List.isChain_cons.mpr ⟨by simp, padded⟩

/-- Behind a body that keeps its hyphens apart, also from a hyphen after it, hyphens meet nowhere
before its end. -/
theorem prefix_of_hyphens {body behind front back : List Char}
    (apart : HyphensApart (body ++ ['-']))
    (same : body ++ '-' :: behind = front ++ '-' :: '-' :: back) : body <+: front := by
  rcases List.append_eq_append_iff.mp same with ⟨between, rfl, -⟩ | ⟨inside, rfl, tail⟩
  · exact List.prefix_append body between
  · cases inside with
    | nil => simp
    | cons c inside =>
      -- The first of the two hyphens is in the body, so both are in the body and the hyphen after.
      rw [List.cons_append, List.cons.injEq] at tail
      obtain ⟨rfl, tail⟩ := tail
      refine absurd ?_ (hyphensApart_iff.mp apart)
      cases inside with
      | nil => exact ⟨front, [], by simp⟩
      | cons d inside =>
        obtain ⟨rfl, -⟩ := List.cons.inj tail
        exact ⟨front, inside ++ ['-'], by simp⟩

/-! ## Characters one after the other -/

/-- One more character behind what is written of a comment: a hyphen behind a hyphen is set off by
a space. -/
def pushApart (out : List Char) (c : Char) : List Char :=
  if c = '-' ∧ out.getLast? = some '-' then out ++ [' ', c] else out ++ [c]

/-- Pushing characters onto a text is spacing hyphens behind it; the flag says whether the text ends
in one. -/
theorem foldl_pushApart (out cs : List Char) :
    cs.foldl pushApart out = out ++ spaceHyphens (out.getLast? = some '-') cs := by
  induction cs generalizing out with
  | nil => simp [spaceHyphens]
  | cons c cs ih =>
    rw [List.foldl_cons, ih, pushApart, spaceHyphens]
    by_cases meets : c = '-' ∧ out.getLast? = some '-'
    · simp [meets]
    · rw [if_neg meets, if_neg (by simpa using meets)]
      simp

/-- Whether a space is written between two characters depends on these two alone. -/
theorem spaceHyphens_cons_cons (c d : Char) (cs : List Char) :
    spaceHyphens false (c :: d :: cs) =
      if c = '-' ∧ d = '-' then c :: ' ' :: spaceHyphens false (d :: cs)
      else c :: spaceHyphens false (d :: cs) := by
  by_cases first : c = '-' <;> by_cases second : d = '-' <;> simp [spaceHyphens, first, second]

/-- Spaced text keeps its hyphens apart, and does not begin with one after a hyphen. -/
theorem spaceHyphens_apart (afterHyphen : Bool) (cs : List Char) :
    HyphensApart (spaceHyphens afterHyphen cs) ∧
      (afterHyphen = true → '-' ∉ (spaceHyphens afterHyphen cs).head?) := by
  induction cs generalizing afterHyphen with
  | nil => exact ⟨.nil, by simp [spaceHyphens]⟩
  | cons c cs ih =>
    rw [spaceHyphens]
    split
    · rename_i hyphens
      simp only [Bool.and_eq_true, decide_eq_true_eq] at hyphens
      obtain ⟨apart, noHyphen⟩ := ih true
      have behindHyphen : HyphensApart (c :: spaceHyphens true cs) :=
        List.isChain_cons.mpr ⟨fun d head _ same => noHyphen rfl (same ▸ head), apart⟩
      refine ⟨List.isChain_cons_cons.mpr ⟨by simp, behindHyphen⟩, by simp⟩
    · rename_i single
      obtain ⟨apart, noHyphen⟩ := ih (c = '-')
      refine ⟨List.isChain_cons.mpr ⟨fun d head hyphen same => ?_, apart⟩, ?_⟩
      · exact noHyphen (by simp [hyphen]) (same ▸ head)
      · rintro rfl
        simpa using single

/-- The characters of a spaced text are those of the text, and spaces. -/
theorem mem_spaceHyphens {c : Char} {afterHyphen : Bool} {cs : List Char}
    (mem : c ∈ spaceHyphens afterHyphen cs) : c = ' ' ∨ c ∈ cs := by
  induction cs generalizing afterHyphen with
  | nil => cases mem
  | cons d cs ih =>
    rw [spaceHyphens] at mem
    split at mem
    · rcases List.mem_cons.mp mem with space | mem
      · exact .inl space
      · rcases List.mem_cons.mp mem with head | mem
        · exact .inr (head ▸ List.mem_cons_self)
        · exact (ih mem).imp_right (List.mem_cons_of_mem d)
    · rcases List.mem_cons.mp mem with head | mem
      · exact .inr (head ▸ List.mem_cons_self)
      · exact (ih mem).imp_right (List.mem_cons_of_mem d)

/-- A text whose hyphens are apart already is written as it is. -/
theorem spaceHyphens_of_apart {cs : List Char} (apart : HyphensApart cs) :
    spaceHyphens false cs = cs := by
  induction cs with
  | nil => rfl
  | cons c cs ih =>
    cases cs with
    | nil => simp [spaceHyphens]
    | cons d cs =>
      obtain ⟨differ, apart⟩ := List.isChain_cons_cons.mp apart
      rw [spaceHyphens_cons_cons, if_neg fun both => differ both.1 both.2, ih apart]

/-! ## The text cut where its hyphens meet -/

/-- A text cut between each two hyphens that meet, and nowhere else. -/
structure CutBetweenHyphens (text : List Char) (runs : List (List Char)) : Prop where
  /-- The runs are the text, one after the other. -/
  whole : runs.flatten = text
  /-- No place to cut is left in a run. -/
  apart : ∀ run ∈ runs, run ≠ [] ∧ HyphensApart run
  /-- Where one run ends and the next begins, a hyphen meets a hyphen. -/
  meeting : runs.IsChain fun run next => '-' ∈ run.getLast? ∧ '-' ∈ next.head?

namespace CutBetweenHyphens

theorem nil : CutBetweenHyphens [] [] :=
  ⟨rfl, List.forall_mem_nil _, .nil⟩

theorem singleton (c : Char) : CutBetweenHyphens [c] [[c]] :=
  ⟨rfl, by simp [HyphensApart], .singleton _⟩

variable {c : Char} {text : List Char} {runs : List (List Char)}

/-- The first run begins the text. -/
theorem exists_first (cut : CutBetweenHyphens (c :: text) runs) :
    ∃ run others, runs = (c :: run) :: others := by
  cases runs with
  | nil => cases cut.whole
  | cons run others =>
    cases run with
    | nil => exact absurd rfl (cut.apart [] List.mem_cons_self).1
    | cons d run =>
      obtain ⟨rfl, -⟩ := List.cons.inj cut.whole
      exact ⟨run, others, rfl⟩

/-- A hyphen before a hyphen is a run of its own. -/
theorem hyphen (cut : CutBetweenHyphens ('-' :: text) runs) :
    CutBetweenHyphens ('-' :: '-' :: text) (['-'] :: runs) := by
  obtain ⟨run, others, rfl⟩ := cut.exists_first
  refine ⟨by rw [List.flatten_cons, cut.whole]; rfl, ?_, ?_⟩
  · exact List.forall_mem_cons.mpr ⟨by simp [HyphensApart], cut.apart⟩
  · exact List.isChain_cons_cons.mpr ⟨by simp, cut.meeting⟩

/-- A character other than a hyphen before a hyphen goes to the front of the first run. -/
theorem longer {d : Char} {run : List Char} (single : ¬ (c = '-' ∧ d = '-'))
    (cut : CutBetweenHyphens (d :: text) ((d :: run) :: runs)) :
    CutBetweenHyphens (c :: d :: text) ((c :: d :: run) :: runs) := by
  obtain ⟨-, apart⟩ := cut.apart _ List.mem_cons_self
  have differ : c = '-' → d ≠ '-' := fun first second => single ⟨first, second⟩
  refine ⟨congrArg (c :: ·) cut.whole, ?_, ?_⟩
  · refine List.forall_mem_cons.mpr ⟨⟨by simp, List.isChain_cons_cons.mpr ⟨differ, apart⟩⟩, ?_⟩
    exact (List.forall_mem_cons.mp cut.apart).2
  · have meeting := cut.meeting
    rw [List.isChain_cons] at meeting ⊢
    simpa only [List.getLast?_cons_cons] using meeting

end CutBetweenHyphens

/-- What is written are the runs of the text, with one space between each two. -/
theorem spaceHyphens_cut (text : List Char) :
    ∃ runs, CutBetweenHyphens text runs ∧ spaceHyphens false text = [' '].intercalate runs := by
  induction text with
  | nil => exact ⟨[], .nil, rfl⟩
  | cons c text ih =>
    cases text with
    | nil => exact ⟨[[c]], .singleton c, by simp [spaceHyphens]⟩
    | cons d text =>
      obtain ⟨runs, cut, written⟩ := ih
      obtain ⟨run, others, rfl⟩ := cut.exists_first
      rw [spaceHyphens_cons_cons, written]
      -- The new character is a run of its own, or goes to the front of the first run.
      split
      · rename_i hyphens
        obtain ⟨rfl, rfl⟩ := hyphens
        exact ⟨['-'] :: ('-' :: run) :: others, cut.hyphen, by simp [List.intercalate_cons_cons]⟩
      · rename_i single
        refine ⟨(c :: d :: run) :: others, cut.longer single, ?_⟩
        cases others <;> simp [List.intercalate_cons_cons]

/-- How many times a hyphen follows a hyphen. -/
def hyphenPairs (text : List Char) : Nat :=
  (text.zip text.tail).count ('-', '-')

/-- Pairs of hyphens are counted from the front, where one more hyphen makes one more pair. -/
theorem hyphenPairs_cons_cons (c d : Char) (text : List Char) :
    hyphenPairs (c :: d :: text) =
      hyphenPairs (d :: text) + if c = '-' ∧ d = '-' then 1 else 0 := by
  simp [hyphenPairs, List.count_cons]

/-- Exactly one space is written for each hyphen that follows a hyphen. -/
theorem length_spaceHyphens (text : List Char) :
    (spaceHyphens false text).length = text.length + hyphenPairs text := by
  induction text with
  | nil => rfl
  | cons c text ih =>
    cases text with
    | nil => simp [spaceHyphens, hyphenPairs]
    | cons d text =>
      rw [spaceHyphens_cons_cons, hyphenPairs_cons_cons]
      split <;> simp only [List.length_cons, ih] <;> omega

/-! ## Comments as strings -/

/-- What a way of writing comments does to their texts. -/
structure SetsHyphensApart (write : String → String) : Prop where
  apart : ∀ s, ¬ "--".toList <:+: (write s).toList
  /-- What is written is the text cut between each two hyphens that meet, with one space in each
  cut. Left out, these spaces give the text back. -/
  spaced : ∀ s, ∃ runs, CutBetweenHyphens s.toList runs ∧
    (write s).toList = [' '].intercalate runs
  length : ∀ s, (write s).length = s.length + hyphenPairs s.toList
  unchanged_iff : ∀ s, write s = s ↔ ¬ "--".toList <:+: s.toList
  idempotent : ∀ s, write (write s) = write s
  /-- It is written character by character, and what is written so far decides on a space. -/
  stepwise : ∀ s, (write s).toList = s.toList.foldl pushApart []

/-- Writing a comment sets hyphens apart and does nothing else, for the text as a whole and
character by character. -/
theorem commentText_setsHyphensApart : SetsHyphensApart commentText := by
  have written : ∀ s, (commentText s).toList = spaceHyphens false s.toList := by
    intro s
    rw [commentText, String.toList_ofList]
  have apart : ∀ s, ¬ "--".toList <:+: (commentText s).toList := by
    intro s
    rw [written]
    exact hyphensApart_iff.mp (spaceHyphens_apart false s.toList).1
  have unchanged : ∀ s, ¬ "--".toList <:+: s.toList → commentText s = s := by
    intro s noPair
    rw [commentText, spaceHyphens_of_apart (hyphensApart_iff.mpr noPair), String.ofList_toList]
  refine ⟨apart, fun s => ?_, fun s => ?_, fun s => ⟨fun same => same ▸ apart s, unchanged s⟩,
    fun s => unchanged _ (apart s), fun s => ?_⟩
  · rw [written]
    exact spaceHyphens_cut s.toList
  · rw [commentText, String.length_ofList, length_spaceHyphens, String.length_toList]
  · rw [written, foldl_pushApart]
    rfl

/-- Hyphens in runs, at the ends of the text and next to spaces. -/
example : commentText "--a - -- b---" = "- -a - - - b- - -" := by
  decide

end GridBeans.Markup
