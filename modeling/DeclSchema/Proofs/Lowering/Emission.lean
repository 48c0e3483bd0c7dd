import DeclSchema.Proofs.Assembly.NormalForm
import DeclSchema.Proofs.Assembly.Plainness
import DeclSchema.Proofs.Lowering.Decoding

/-!
The emitted schema, read again. What a run makes of legible declarations is printed as a text that
reads back as the same document, and a second run has nothing to do.
-/

namespace DeclSchema

open Schema

theorem print_read {document : Document} (some : document.definitions ≠ [])
    (plain : Assembly.Plain (Fitting TypeRef.Proper) document.definitions) :
    readSchema (document.print ++ "\n") = .ok document := by
  obtain ⟨proper, fits⟩ := (all_split definition_fitting document.definitions).mp plain
  have parsed := Reading.parse_plain some proper (tokens_print proper)
  rw [if_pos fits] at parsed
  rw [readSchema, parsed]

theorem complete_sdl (extraction : Extraction) (document : Document) :
    (extraction.complete .none document).value.sdl =
      (Assembly.run document).value.document.print ++ "\n" := by
  rw [Extraction.complete, Logged.bind_value]
  rfl

theorem start_document (document : Document) : (Assembly.State.start document).document = document :=
  rfl

theorem run_again (document : Document) :
    (Assembly.run (Assembly.run document).value.document).value.document =
      (Assembly.run document).value.document := by
  rw [Assembly.run_of_assembled (Assembly.run_assembled document), Logged.pure_value, start_document]

section Extracted

variable {declarations : List Declaration} {extraction : Extraction}

theorem extracted_text (extracted : (extract declarations).outcome = .ok extraction) :
    (schemaText declarations).allBlank = false ∧
      extraction.schemaText = schemaText declarations := by
  obtain ⟨table, count, outcome⟩ := extract_outcome declarations
  rw [outcome] at extracted
  split at extracted
  · cases extracted
  · rename_i shown
    cases extracted
    exact ⟨Bool.eq_false_iff.mpr shown, rfl⟩

theorem extracted_shown (extracted : (extract declarations).outcome = .ok extraction) :
    Shown declarations := by
  have shown := (extracted_text extracted).1
  obtain ⟨point, member, _⟩ := List.all_eq_false.mp shown
  obtain ⟨declaration, listed, inside⟩ := List.mem_flatMap.mp member
  refine ⟨declaration, listed, ?_⟩
  intro empty
  rw [empty] at inside
  cases inside

-- What has been read is plain, and its types can be read.
theorem extracted_plain {document : Document} (legible : Legible declarations)
    (extracted : (extract declarations).outcome = .ok extraction)
    (read : readSchema extraction.schemaText = .ok document) :
    Assembly.Plain (Fitting TypeRef.Proper) document.definitions := by
  rw [(extracted_text extracted).2, schemaText_read legible (extracted_shown extracted)] at read
  split at read
  · rename_i fits
    cases read
    exact (all_split definition_fitting _).mpr ⟨definitions_plain legible, fits⟩
  · cases read

theorem emitted_stable {document : Document} (legible : Legible declarations)
    (extracted : (extract declarations).outcome = .ok extraction)
    (read : readSchema extraction.schemaText = .ok document)
    (some : (Assembly.run document).value.definitions ≠ []) :
    let result := (Assembly.run document).value.document
    let sdl := (extraction.complete .none document).value.sdl
    sdl = result.print ++ "\n" ∧ readSchema sdl = .ok result ∧
      (Assembly.run result).value.document.print ++ "\n" = sdl := by
  intro result sdl
  have printed : sdl = result.print ++ "\n" := complete_sdl extraction document
  have again : (Assembly.run result).value.document = result := run_again document
  have plain := Assembly.run_preserves (extracted_plain legible extracted read)
  rw [← Assembly.document_definitions] at some plain
  refine ⟨printed, ?_, ?_⟩
  · rw [printed]
    exact print_read some plain
  · rw [printed, again]

end Extracted

-- A field whose argument is of a type that becomes an input type, and two definitions of `Query`.
def searchDeclarations : List Declaration :=
  [.typeAlias "QuerysearchArgs"
      (.object [.typed (some "filters") (.reference "Array" [.reference "Filter" []]) false]) [],
    .typeAlias "Query" (.object [.typed (some "search") (.keyword "string") true]) [],
    .typeAlias "Filter" (.object [.typed (some "text") (.keyword "string") false]) [],
    .typeAlias "Query" (.object [.typed (some "size") (.keyword "number") false]) []]

def searchDocument : Document := ⟨searchDeclarations.flatMap Declaration.definitions⟩

def searchText : String :=
  "input Filter \x7b\n  text: String!\n\x7d\n\n" ++
    "type Query \x7b\n  search(filters: [Filter]!): String\n  size: Int!\n\x7d\n"

theorem search_printed :
    (Assembly.run searchDocument).value.document.print ++ "\n" = searchText := by decide +kernel

theorem emitted_stable_search :
    Legible searchDeclarations ∧
    ∃ extraction, (extract searchDeclarations).outcome = .ok extraction ∧
      readSchema extraction.schemaText = .ok searchDocument ∧
      (Assembly.run searchDocument).value.definitions ≠ [] ∧
      readSchema searchText = .ok (Assembly.run searchDocument).value.document := by
  have legible : Legible searchDeclarations := ⟨by decide, by decide +kernel⟩
  have shown : Shown searchDeclarations := ⟨_, List.mem_cons_self, by decide +kernel⟩
  obtain ⟨extraction, extracted, text⟩ := extract_shown shown
  have read : readSchema extraction.schemaText = .ok searchDocument := by
    rw [text, schemaText_read legible shown]
    exact if_pos (by decide +kernel)
  have some : (Assembly.run searchDocument).value.definitions ≠ [] := by
    have count : (Assembly.run searchDocument).value.definitions.length = 2 := by decide +kernel
    intro empty
    rw [empty] at count
    cases count
  obtain ⟨printed, again, _⟩ := emitted_stable legible extracted read some
  rw [printed, search_printed] at again
  exact ⟨legible, extraction, extracted, read, some, again⟩

end DeclSchema
