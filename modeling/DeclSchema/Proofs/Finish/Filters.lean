import DeclSchema.Finish

/-!
Filters one after another. Each of them leaves out what it does not keep and changes nothing else,
so a list of filters is one filter: it keeps what all of them keep, in whatever order they stand
and however often.
-/

namespace DeclSchema

open Schema

/-! ### One filter -/

namespace Filter

-- An empty text asks for nothing.
def Asks (setting : Option String) (text : String) : Prop := setting = some text ∧ text ≠ ""

structure Admits (filter : Filter) (name : String) : Prop where
  notAtStart : ∀ text, Asks filter.excludeStart text → ¬ text.toList <+: name.toList
  notAtEnd : ∀ text, Asks filter.excludeEnd text → ¬ text.toList <:+ name.toList
  atStart : ∀ text, Asks filter.includeStart text → text.toList <+: name.toList
  atEnd : ∀ text, Asks filter.includeEnd text → text.toList <:+ name.toList

-- Operation types and what has no name are exempt from filters.
def IsExempt (name : Option String) : Prop :=
  name = none ∨ name = some "Query" ∨ name = some "Mutation"

instance (name : Option String) : Decidable (IsExempt name) := inferInstanceAs (Decidable (_ ∨ _))

def Keeps (filter : Filter) (name : Option String) : Prop :=
  IsExempt name ∨ ∃ text, name = some text ∧ filter.Admits text

theorem refused_exact {test : String → Bool} {setting : Option String} :
    refused test setting = false ↔ ∀ text, Asks setting text → test text = true := by
  cases setting with
  | none =>
    refine ⟨fun _ text asked => ?_, fun _ => rfl⟩
    cases asked.1
  | some text =>
    rw [refused, Bool.and_eq_false_iff, Bool.not_eq_false', Bool.not_eq_false', String.isEmpty_iff]
    constructor
    · rintro passed other ⟨same, filled⟩
      cases same
      exact passed.resolve_left filled
    · intro tested
      by_cases empty : text = ""
      · exact .inl empty
      · exact .inr (tested text ⟨rfl, empty⟩)

theorem startsWith_exact {name text : String} :
    startsWith name text = true ↔ text.toList <+: name.toList := List.isPrefixOf_iff_prefix

theorem endsWith_exact {name text : String} :
    endsWith name text = true ↔ text.toList <:+ name.toList := List.isSuffixOf_iff_suffix

theorem admits_exact {filter : Filter} {name : String} :
    (refused (!startsWith name ·) filter.excludeStart ||
      refused (!endsWith name ·) filter.excludeEnd ||
      refused (startsWith name ·) filter.includeStart ||
      refused (endsWith name ·) filter.includeEnd) = false ↔ filter.Admits name := by
  simp only [Bool.or_eq_false_iff, refused_exact, Bool.not_eq_true']
  simp only [← Bool.not_eq_true, startsWith_exact, endsWith_exact]
  constructor
  · rintro ⟨⟨⟨notAtStart, notAtEnd⟩, atStart⟩, atEnd⟩
    exact ⟨notAtStart, notAtEnd, atStart, atEnd⟩
  · rintro ⟨notAtStart, notAtEnd, atStart, atEnd⟩
    exact ⟨⟨⟨notAtStart, notAtEnd⟩, atStart⟩, atEnd⟩

theorem keeps_exact {filter : Filter} {definition : Definition} :
    filter.keeps definition = true ↔ filter.Keeps definition.name? := by
  unfold keeps Keeps IsExempt
  cases definition.name? with
  | none => simp [keepsName]
  | some name =>
    rw [keepsName, Bool.or_eq_true, Bool.or_eq_true, Bool.not_eq_true', admits_exact]
    simp [or_assoc]

theorem exempt_kept {filter : Filter} {definition : Definition} (exempt : IsExempt definition.name?) :
    filter.keeps definition = true := keeps_exact.mpr (.inl exempt)

end Filter

/-! ### All filters -/

namespace Finish

def keeps (finish : Finish) (definition : Definition) : Bool :=
  finish.filters.all (·.keeps definition)

theorem keeps_all {finish : Finish} {definition : Definition} :
    finish.keeps definition = true ↔ ∀ filter ∈ finish.filters, filter.Keeps definition.name? := by
  rw [keeps, List.all_eq_true]
  exact forall₂_congr fun filter _ => Filter.keeps_exact

theorem onDocument_kept (finish : Finish) (document : Document) :
    finish.onDocument document = ⟨document.definitions.filter finish.keeps⟩ := by
  obtain ⟨filters, headers⟩ := finish
  unfold onDocument keeps
  induction filters generalizing document with
  | nil =>
    have everything : document.definitions.filter (fun _ => true) = document.definitions :=
      List.filter_eq_self.mpr fun _ _ => rfl
    simp [everything]
  | cons filter rest ih =>
    rw [List.foldl_cons, ih, Filter.apply, List.filter_filter]
    simp only [List.all_cons, Bool.and_comm]

theorem keeps_congr {first second : Finish}
    (same : ∀ filter, filter ∈ first.filters ↔ filter ∈ second.filters) :
    first.keeps = second.keeps := by
  funext definition
  rw [Bool.eq_iff_iff, keeps_all, keeps_all]
  exact forall_congr' fun filter => imp_congr_left (same filter)

theorem exempt_all {finish : Finish} {definition : Definition}
    (exempt : Filter.IsExempt definition.name?) : finish.keeps definition = true :=
  List.all_eq_true.mpr fun _ _ => Filter.exempt_kept exempt

end Finish

theorem filters_as_one (first second : Finish) (document : Document)
    (same : ∀ filter, filter ∈ first.filters ↔ filter ∈ second.filters) :
    (first.onDocument document).definitions = document.definitions.filter first.keeps ∧
    (∀ definition, first.keeps definition = true ↔
      ∀ filter ∈ first.filters, filter.Keeps definition.name?) ∧
    second.onDocument document = first.onDocument document ∧
    first.onDocument (first.onDocument document) = first.onDocument document ∧
    (first.onDocument document).definitions.filter (fun d => decide (Filter.IsExempt d.name?)) =
      document.definitions.filter fun d => decide (Filter.IsExempt d.name?) := by
  refine ⟨by rw [Finish.onDocument_kept], fun _ => Finish.keeps_all, ?_, ?_, ?_⟩
  · rw [Finish.onDocument_kept, Finish.onDocument_kept, Finish.keeps_congr same]
  · simp only [Finish.onDocument_kept, List.filter_filter, Bool.and_self]
  · rw [Finish.onDocument_kept, List.filter_filter]
    refine List.filter_congr fun definition _ => ?_
    rw [Bool.and_eq_left_iff_imp, decide_eq_true_eq]
    exact Finish.exempt_all

-- Two filters that cut into each other.
def cutting : Finish :=
  ⟨[⟨some "_", none, some "", none⟩, ⟨none, some "Old", some "Use", some ""⟩], []⟩

-- The same filters in another order, and both of them once more.
def cuttingAgain : Finish := ⟨cutting.filters.reverse ++ cutting.filters, ["# again"]⟩

def cutDocument : Document :=
  ⟨[.scalar none "_Date" [], .enumeration none "UserOld" [] [], .schema none [] [],
    .extension (.object "Query" [] [] []), .scalar none "Usage" [], .union none "Used" [] [],
    .scalar none "Time" [], .fragment none "Mutation" "Used" [] []]⟩

theorem filters_as_one_cutting :
    (∀ filter, filter ∈ cutting.filters ↔ filter ∈ cuttingAgain.filters) ∧
    cuttingAgain.onDocument cutDocument =
      ⟨[.schema none [] [], .extension (.object "Query" [] [] []), .union none "Used" [] [],
        .fragment none "Mutation" "Used" [] []]⟩ := by
  have same : ∀ filter, filter ∈ cutting.filters ↔ filter ∈ cuttingAgain.filters := by
    intro filter
    simp [cuttingAgain]
  obtain ⟨_, _, alike, _, _⟩ := filters_as_one cutting cuttingAgain cutDocument same
  exact ⟨same, alike.trans (by rfl)⟩

end DeclSchema
