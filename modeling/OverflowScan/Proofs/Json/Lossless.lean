import OverflowScan.Proofs.Files.Store
import OverflowScan.Proofs.Json.Reader
import OverflowScan.Proofs.Json.Writer
import OverflowScan.ReportFile

set_option autoImplicit false

namespace OverflowScan

namespace Json

/-- The text is ASCII, the reader finds the document in it, and the grammar gives it no other
meaning. -/
structure Conveys (text : List Char) (document : Document) : Prop where
  ascii : Text.Ascii text
  read : read? text = some document
  only : ∀ meant, Denotes text meant ↔ meant = document

theorem conveys_render (document : Document) : Conveys (render 0 document) document where
  ascii := ascii_render 0 document
  read := read?_of_denotes (denotes_render document)
  only := by
    intro meant
    constructor
    · intro denotes
      exact denotes.unique (denotes_render document)
    · intro same
      rw [same]
      exact denotes_render document

theorem render_injective {first second : Document} (same : render 0 first = render 0 second) :
    first = second := by
  have other := denotes_render second
  rw [← same] at other
  exact (denotes_render first).unique other

end Json

theorem Format.ofName_of_ne {name : String} (other : name ≠ "yaml") : Format.ofName name = .json :=
  if_neg other

/-- By any format name but one, every document is written as an ASCII text that means this document
alone, the stored file holds that text, and results that are written alike are equal. -/
theorem json_report_lossless (name : String) (other : name ≠ "yaml") :
    (∀ document : Document,
      Json.Conveys (document.serialise (Format.ofName name)) document ∧
      ∀ (tree stored : FileTree) (path : String),
        tree.storeDocument path document (Format.ofName name) = (stored, .ok ()) →
          ∃ bytes, stored.read (Path.ofString path) = .ok bytes ∧
            Utf8.decode bytes = document.serialise (Format.ofName name)) ∧
    ∀ first second : ScanResult,
      (Document.ofResult first).serialise (Format.ofName name) =
          (Document.ofResult second).serialise (Format.ofName name) →
        first.source = second.source ∧ first.summary = second.summary ∧
          first.findings = second.findings := by
  rw [Format.ofName_of_ne other]
  constructor
  · intro document
    have conveys := Json.conveys_render document
    refine ⟨conveys, ?_⟩
    intro tree stored path done
    exact ⟨_, FileTree.read_of_store done, conveys.ascii.decode_encode⟩
  · intro first second same
    have equal := Document.ofResult_injective (Json.render_injective same)
    rw [equal]
    exact ⟨rfl, rfl, rfl⟩

theorem stored_list_read_back :
    let document : Document := .list [.text "\"\x7f😀", .int (-12), .map []]
    let text := "[\n  \"\\\"\\u007f\\ud83d\\ude00\",\n  -12,\n  \x7b\x7d\n]".toList
    "json" ≠ "yaml" ∧ (∀ meant, Json.Denotes text meant ↔ meant = document) ∧
      ∃ stored bytes, (FileTree.empty ["home"]).storeDocument "out/list" document .json =
          (stored, .ok ()) ∧
        stored.read (Path.ofString "out/list") = .ok bytes ∧ Utf8.decode bytes = text := by
  intro document text
  have other : "json" ≠ "yaml" := by decide
  have written : document.serialise (Format.ofName "json") = text := by
    decide +kernel
  have stores : ((FileTree.empty ["home"]).storeDocument "out/list" document
      (Format.ofName "json")).2 = .ok () := by
    rfl
  have whole := (json_report_lossless "json" other).1 document
  rw [written] at whole
  obtain ⟨bytes, held, same⟩ := whole.2 _ _ "out/list" (Prod.ext rfl stores)
  exact ⟨other, whole.1.only, _, bytes, Prod.ext rfl stores, held, same⟩

end OverflowScan
