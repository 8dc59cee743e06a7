import GridBeans.Proofs.Generation.Document
import GridBeans.Proofs.Generation.Faults
import GridBeans.Proofs.Config.Unset

/-!
# The header comment

The comment at the head of a document is one comment whatever it says. Its text is written so that
no two hyphens meet in it, and so the first two that meet behind its opening are those of its end.
-/
namespace GridBeans.Generation

open GridBeans.Xml GridBeans.Markup GridBeans.Config

/-- A text that begins with a declaration, an empty line and one comment with a line end behind it.
-/
structure OpensWithComment (said rest text : String) : Prop where
  line : text = "<?xml version=\"1.0\" encoding=\"UTF-8\"?>\n\n" ++
    ("<!--" ++ said ++ "-->") ++ "\n" ++ rest
  /-- Behind the opening, hyphens meet nowhere before the end of what is said. -/
  endsFirst : ∀ front back,
    (said ++ "-->" ++ "\n" ++ rest).toList = front ++ "--".toList ++ back → said.toList <+: front
  /-- A reader takes what is said, and no more, for the comment. -/
  read : scanMarkup (("<!--" ++ said ++ "-->") ++ "\n" ++ rest).toList =
    some (.comment said.toList, ("\n" ++ rest).toList)

/-- Hyphens that do not meet in what is said, nor with the end, leave the comment in one piece. -/
theorem OpensWithComment.of_apart {said rest text : String}
    (apart : HyphensApart (said.toList ++ ['-']))
    (line : text = "<?xml version=\"1.0\" encoding=\"UTF-8\"?>\n\n" ++
      ("<!--" ++ said ++ "-->") ++ "\n" ++ rest) :
    OpensWithComment said rest text := by
  refine ⟨line, fun front back same => ?_, ?_⟩
  · have hyphens : said.toList ++ '-' :: '-' :: '>' :: ("\n" ++ rest).toList =
        front ++ '-' :: '-' :: back := by simpa using same
    exact prefix_of_hyphens apart hyphens
  · have written : (("<!--" ++ said ++ "-->") ++ "\n" ++ rest).toList =
        (Xml.Markup.comment said.toList).write ++ ("\n" ++ rest).toList := by
      simp [Xml.Markup.write]
    rw [written, scanMarkup_write (.comment said.toList) apart]

/-- What the header comment says between its delimiters. -/
def headerSaid (options : DocumentOptions) : String :=
  " " ++ commentText options.headerComment ++ " "

/-- What the header comment says has its hyphens apart, also from those of the delimiter behind it.
-/
theorem headerSaid_apart (options : DocumentOptions) :
    HyphensApart ((headerSaid options).toList ++ ['-']) := by
  have apart := hyphensApart_iff.mpr (commentText_setsHyphensApart.apart options.headerComment)
  simpa [headerSaid] using hyphensApart_padded apart

/-- The header comment stands behind the declaration, before the root element. -/
theorem documentHead_line (options : DocumentOptions) :
    documentHead options = "<?xml version=\"1.0\" encoding=\"UTF-8\"?>\n\n" ++
      ("<!--" ++ headerSaid options ++ "-->") ++ "\n" ++
        String.ofList (rootTag.write ++ ['\n']) := by
  have header : (headerItem options).write =
      ("<!--" ++ headerSaid options ++ "-->").toList ++ "\n".toList := by
    simp [headerItem, Item.write, Xml.Markup.write, headerSaid, commentText]
  apply String.toList_injective
  rw [documentHead_toList, header, ← List.append_assoc declaration.write, ← declaration_write]
  simp only [String.toList_append, String.toList_ofList, List.append_assoc]

/-- The head of a document opens with the header comment, whatever follows. -/
theorem documentHead_opens (options : DocumentOptions) (behind : String) :
    OpensWithComment (headerSaid options)
      (String.ofList (rootTag.write ++ ['\n']) ++ behind) (documentHead options ++ behind) := by
  apply OpensWithComment.of_apart (headerSaid_apart options)
  rw [documentHead_line, String.append_assoc]

/-- The text of a comment is written with a space between each two hyphens that meet, and so the
header of every document is one comment, which the first two hyphens behind its opening end. -/
theorem header_one_comment :
    SetsHyphensApart commentText ∧
      ∀ (c : ClusterConfig) (clientNear : Option NearCacheConfig) (options : DocumentOptions)
        (text : String), clusterDocument c clientNear options = .ok text →
        ∃ rest, OpensWithComment (" " ++ commentText options.headerComment ++ " ") rest text := by
  refine ⟨commentText_setsHyphensApart, fun c clientNear options text generated => ?_⟩
  obtain ⟨-, written⟩ := clusterDocument_outcome generated
  rw [String.append_assoc, String.append_assoc] at written
  rw [written]
  exact ⟨_, documentHead_opens options _⟩

/-- Options with a header of hyphens in runs, at its end and next to spaces. -/
def hyphenatedOptions : DocumentOptions :=
  { DocumentOptions.default with headerComment := "a -- b ---" }

/-- A header of hyphens, which would end its comment if it were written as it is. -/
theorem hyphenatedHeader_one_comment :
    ∃ text, clusterDocument ClusterConfig.unset none hyphenatedOptions = .ok text ∧
      ∃ rest, OpensWithComment " a - - b - - - " rest text := by
  have noFault : faults ClusterConfig.unset none = [] := by decide
  obtain ⟨text, generated⟩ :=
    (clusterDocument_ok_iff ClusterConfig.unset none hyphenatedOptions).mpr noFault
  obtain ⟨rest, opens⟩ := header_one_comment.2 _ _ _ _ generated
  have said : " " ++ commentText hyphenatedOptions.headerComment ++ " " = " a - - b - - - " := by
    decide
  exact ⟨text, generated, rest, said ▸ opens⟩

end GridBeans.Generation
