import TypstPress.Proofs.Typst.Shown

/-!
# References and what they refer to

Two readings of link definitions, and both are cases of `compile_alike`.

A definition is a substitution. Replacing every reference by a link or an image
with the url that its identifier is first defined as is the same document to
the compiler (`compile_resolveReferences`). The replacement touches no
definition and no footnote, so it neither changes which definition is the first
nor which notes are set.

A definition may stand anywhere. The compiler sees definitions through the map
from identifiers to first urls and in no other way, so that documents whose
content matches compile to the same result as soon as their maps are equal
(`compile_eq_of_firstUrl?_eq`). Here the failures are the same, too.
-/

namespace TypstPress

/-! ## Substituting urls -/

/-- The leaf with the url of its identifier in the place of a reference. -/
def Leaf.resolved (url? : String → Option Url) : Leaf → Leaf
  | .imageReference identifier label form altText attributes =>
    match url? identifier with
    | some url => .image url altText none attributes
    | none => .imageReference identifier label form altText attributes
  | l => l

/-- The branch with the url of its identifier in the place of a reference. -/
def Branch.resolved (url? : String → Option Url) : Branch → Branch
  | .linkReference identifier label form =>
    match url? identifier with
    | some url => .link url none
    | none => .linkReference identifier label form
  | k => k

/-- The kind with the url of its identifier in the place of a reference. -/
def Kind.resolved (url? : String → Option Url) : Kind → Kind
  | .leaf l => .leaf (l.resolved url?)
  | .branch k => .branch (k.resolved url?)

namespace Node

mutual

/-- The tree with urls in the place of all references to known identifiers. -/
def resolved (url? : String → Option Url) : Node → Node
  | .leaf l m => .leaf (l.resolved url?) m
  | .branch k cs m => .branch (k.resolved url?) (resolvedAll url? cs) m

/-- The trees with urls in the place of all references to known identifiers. -/
def resolvedAll (url? : String → Option Url) : List Node → List Node
  | [] => []
  | n :: ns => n.resolved url? :: resolvedAll url? ns

end

/-- The document with each reference replaced by a link or an image to the first
definition of its identifier, if there is one. -/
def resolveReferences (document : Node) : Node := document.resolved document.firstUrl?

end Node

namespace Kind

theorem shown_resolved (url? : String → Option Url) (k : Kind) :
    (k.resolved url?).shown url? = k.shown url? := by
  cases k with
  | leaf l =>
      cases l with
      | imageReference identifier label form altText attributes =>
          cases hurl : url? identifier <;> simp [resolved, Leaf.resolved, shown, Leaf.shown, hurl]
      | _ => rfl
  | branch k =>
      cases k with
      | linkReference identifier label form =>
          cases hurl : url? identifier <;>
            simp [resolved, Branch.resolved, shown, Branch.shown, hurl]
      | _ => rfl

theorem isDocument_resolved (url? : String → Option Url) (k : Kind) :
    (k.resolved url?).isDocument = k.isDocument := by
  cases k with
  | leaf l => rfl
  | branch k =>
      cases k with
      | linkReference identifier label form =>
          rw [resolved, Branch.resolved]
          split <;> rfl
      | _ => rfl

end Kind

namespace Node

variable (url? : String → Option Url)

theorem definition?_resolved (n : Node) : (n.resolved url?).definition? = n.definition? := by
  cases n with
  | branch k cs m =>
      rw [resolved]
      rfl
  | leaf l m =>
      rw [resolved]
      cases l with
      | imageReference identifier label form altText attributes =>
          rw [Leaf.resolved]
          split <;> rfl
      | _ => rfl

theorem isDocument_resolved (n : Node) : (n.resolved url?).isDocument = n.isDocument := by
  cases n with
  | leaf l m => rw [resolved]; rfl
  | branch k cs m =>
      rw [resolved]
      cases k with
      | linkReference identifier label form =>
          rw [Branch.resolved]
          split <;> rfl
      | _ => rfl

theorem children_resolved (n : Node) :
    (n.resolved url?).children = resolvedAll url? n.children := by
  cases n <;> rw [resolved] <;> rfl

mutual

theorem preorder_resolved (n : Node) :
    (n.resolved url?).preorder = n.preorder.map (resolved url?) := by
  match n with
  | .leaf l m =>
      rw [preorder, List.map_singleton, resolved, preorder]
  | .branch k cs m =>
      rw [preorder, List.map_cons, resolved, preorder, preorderAll_resolvedAll cs]

theorem preorderAll_resolvedAll (ns : List Node) :
    preorderAll (resolvedAll url? ns) = (preorderAll ns).map (resolved url?) := by
  match ns with
  | [] => rfl
  | n :: ns =>
      rw [resolvedAll, preorderAll, preorderAll, List.map_append, preorder_resolved n,
        preorderAll_resolvedAll ns]

end

/-- The substitution leaves the definitions alone, and with them their order. -/
theorem firstUrl?_resolved (tree : Node) : (tree.resolved url?).firstUrl? = tree.firstUrl? := by
  funext identifier
  rw [firstUrl?, firstUrl?, preorder_resolved, List.filterMap_map]
  congr 2
  funext n
  exact definition?_resolved url? n

mutual

theorem matches_resolved {n : Node} (h : n.all (!·.isDocument) = true) :
    n.Matches (fun k k' => k' = k.resolved url? ∧ (!k.isDocument) = true) (n.resolved url?) := by
  match n with
  | .leaf l m =>
      rw [resolved]
      exact ⟨rfl, rfl⟩
  | .branch k cs m =>
      rw [all_branch] at h
      rw [resolved]
      exact ⟨⟨rfl, h.1⟩, matchesAll_resolvedAll h.2⟩

theorem matchesAll_resolvedAll {ns : List Node} (h : allOf (!·.isDocument) ns = true) :
    MatchesAll (fun k k' => k' = k.resolved url? ∧ (!k.isDocument) = true) ns
      (resolvedAll url? ns) := by
  match ns with
  | [] => exact trivial
  | n :: ns =>
      rw [allOf_cons] at h
      rw [resolvedAll]
      exact ⟨matches_resolved h.1, matchesAll_resolvedAll h.2⟩

end

end Node

/-! ## Trees with other definitions -/

/-- Kinds that are equal, or both those of definitions. -/
def Kind.SameContent (k k' : Kind) : Prop :=
  k = k' ∨ k.isDefinition = true ∧ k'.isDefinition = true

theorem Kind.SameContent.shown_eq {k k' : Kind} (h : k.SameContent k')
    (url? : String → Option Url) : k.shown url? = k'.shown url? := by
  rcases h with rfl | ⟨hk, hk'⟩
  · rfl
  · obtain ⟨identifier, url, title, label, rfl⟩ := Kind.eq_definition hk
    obtain ⟨identifier', url', title', label', rfl⟩ := Kind.eq_definition hk'
    rfl

theorem kindName_of_sameContent {n n' : Node} (h : n.kind.SameContent n'.kind) :
    n.kindName = n'.kindName := by
  rcases h with h | ⟨hn, hn'⟩
  · cases n <;> cases n' <;> cases h <;> rfl
  · obtain ⟨identifier, url, title, label, m, rfl⟩ := Node.eq_definition hn
    obtain ⟨identifier', url', title', label', m', rfl⟩ := Node.eq_definition hn'
    rfl

namespace Node

mutual

/-- Trees that match, of which the first is of accepted kinds. -/
theorem Matches.and_all {T : Kind → Kind → Prop} {p : Kind → Bool} {n n' : Node}
    (h : n.Matches T n') (hp : n.all p = true) :
    n.Matches (fun k k' => T k k' ∧ p k = true) n' := by
  match n, n', h with
  | .leaf l m, .leaf l' m', h =>
      rw [all_leaf] at hp
      exact ⟨h, hp⟩
  | .branch k cs m, .branch k' cs' m', h =>
      rw [all_branch] at hp
      exact ⟨⟨h.1, hp.1⟩, MatchesAll.and_all h.2 hp.2⟩

theorem MatchesAll.and_all {T : Kind → Kind → Prop} {p : Kind → Bool} {ns ns' : List Node}
    (h : MatchesAll T ns ns') (hp : allOf p ns = true) :
    MatchesAll (fun k k' => T k k' ∧ p k = true) ns ns' := by
  match ns, ns', h with
  | [], [], _ => exact trivial
  | n :: ns, n' :: ns', h =>
      rw [allOf_cons] at hp
      exact ⟨Matches.and_all h.1 hp.1, MatchesAll.and_all h.2 hp.2⟩

end

end Node

namespace Typst

open Node

theorem setAlike_resolved (url? : String → Option Url) :
    SetAlike url? url? (fun k k' => k' = k.resolved url? ∧ (!k.isDocument) = true)
      (fun _ _ => True) where
  shown := by
    rintro k _ ⟨rfl, -⟩
    exact (Kind.shown_resolved url? k).symm
  noDocument := by
    rintro k _ ⟨rfl, hk⟩
    rw [Kind.isDocument_resolved]
    exact ⟨hk, hk⟩
  notTabular _ _ := trivial

/-- Resolving references is substitution: a document compiles to what it compiles
to with the first definitions put in the places of its references. -/
theorem compile_resolveReferences (options : TypstOptions) {document : Node}
    (h : document.isWholeDocument = true) (compiled : Compiled) :
    (compile options document.resolveReferences).result = .ok compiled ↔
      (compile options document).result = .ok compiled := by
  rw [isWholeDocument, Bool.and_eq_true] at h
  have halike := setAlike_resolved document.firstUrl?
  have hcontent := (matchesAll_resolvedAll document.firstUrl? h.2).withoutDefinitions
    fun _ _ => halike.isDefinition
  rw [← children_resolved document.firstUrl? document] at hcontent
  have hroot := h.1
  rw [← isDocument_resolved document.firstUrl? document] at hroot
  rcases compile_alike options (by rw [firstUrl?_resolved]; exact halike) h.1 hroot hcontent with
    ⟨both, hboth, hboth'⟩ | ⟨d, d', -, hd, hd'⟩
  · rw [hboth, resolveReferences, hboth']
  · rw [resolveReferences]
    simp only [hd, hd', reduceCtorEq]

/-- A document whose references stand before what they refer to, in the text of
another reference, in a footnote and in a cell. The first definition of "a" is in
a cell that is not shown, and "c" is not defined. -/
def crossReferences (a : List Node → Node) (b : Node) : Node :=
  .ofBranch .document
    [.ofBranch .paragraph
        [a [b, .ofBranch (.linkReference "c" (some "C") .full) [.ofText "see"]],
          .ofLeaf (.footnoteReference "n")],
      .ofBranch (.table false [none, none])
        [.ofBranch (.tableRow false)
          [.ofBranch (.tableCell 2 1 false none) [b],
            .ofBranch (.tableCell 1 1 true none) [.ofLeaf (.definition "a" "first" none none)]]],
      .ofBranch (.footnoteDefinition "n")
        [a [.ofText "note"], .ofLeaf (.definition "b" "image" none none)],
      .ofLeaf (.definition "a" "second" none none)]

/-- The document with its references. -/
def unresolvedReferences : Node :=
  crossReferences (.ofBranch (.linkReference "a" none .full))
    (.ofLeaf (.imageReference "b" (some "B") .collapsed "alt" []))

/-- The document with urls in the places of its references. -/
def resolvedReferences : Node :=
  crossReferences (.ofBranch (.link "first" none)) (.ofLeaf (.image "image" "alt" none []))

theorem compile_resolvedReferences :
    unresolvedReferences.isWholeDocument = true ∧
      ∃ compiled, (compile {} unresolvedReferences).result = .ok compiled ∧
        (compile {} resolvedReferences).result = .ok compiled := by
  have hwhole : unresolvedReferences.isWholeDocument = true := by decide
  have hdefect : firstDefect (compiledFragments {} unresolvedReferences) = none := by
    rw [compiledFragments, settingOf, Definitions.collect_eq]
    decide
  have hresolved : unresolvedReferences.resolveReferences = resolvedReferences := rfl
  obtain ⟨compiled, hok⟩ : ∃ compiled, (compile {} unresolvedReferences).result = .ok compiled := by
    rw [compile_result {} hwhole, hdefect]
    exact ⟨_, rfl⟩
  refine ⟨hwhole, compiled, hok, ?_⟩
  rw [← hresolved]
  exact (compile_resolveReferences {} hwhole compiled).2 hok

/-! ## Moving definitions -/

/-- Definitions are set alike whatever they define, and documents whose
identifiers are first defined as the same urls see the same references. -/
theorem setAlike_sameContent {url? url?' : String → Option Url} (hurl : url? = url?') :
    SetAlike url? url?' (fun k k' => k.SameContent k' ∧ (!k.isDocument) = true) Eq where
  shown h := by rw [hurl, h.1.shown_eq]
  noDocument := by
    rintro k k' ⟨rfl | ⟨-, hk'⟩, hdocument⟩
    · exact ⟨hdocument, hdocument⟩
    · exact ⟨hdocument, Kind.isDocument_of_isDefinition hk'⟩
  notTabular part h := by rw [kindName_of_sameContent h.1]

/-- Definitions may stand anywhere: documents whose content matches compile to the
same result if they first define each identifier as the same url. -/
theorem compile_eq_of_firstUrl?_eq (options : TypstOptions) {document document' : Node}
    (h : document.isWholeDocument = true) (hroot' : document'.isDocument = true)
    (hcontent : MatchesAll Kind.SameContent (withoutDefinitions document.children)
      (withoutDefinitions document'.children))
    (hurl : ∀ identifier, document.firstUrl? identifier = document'.firstUrl? identifier) :
    (compile options document).result = (compile options document').result := by
  rw [isWholeDocument, Bool.and_eq_true] at h
  have hinner := h.2
  rw [← allOf_withoutDefinitions fun _ => Kind.isDocument_of_isDefinition] at hinner
  rcases compile_alike options (setAlike_sameContent (funext hurl)) h.1 hroot'
      (hcontent.and_all hinner) with ⟨compiled, hok, hok'⟩ | ⟨d, d', hsame, hd, hd'⟩
  · rw [hok, hok']
  · obtain rfl : d = d' := hsame.elim id id
    rw [hd, hd']

/-- A document with a reference in its text and one in a footnote, between two
groups of definitions. -/
def definedAround (before after : List Node) : Node :=
  .ofBranch .document
    (before ++
      [.ofBranch .paragraph
        [.ofBranch (.linkReference "a" none .full) [.ofText "text"],
          .ofLeaf (.footnoteReference "n")],
      .ofBranch (.footnoteDefinition "n")
        [.ofLeaf (.imageReference "b" none .shortcut "alt" [])]] ++
      after)

theorem compile_eq_of_definitions_moved :
    (compile {} (definedAround
        [.ofLeaf (.definition "a" "one" (some "title") none),
          .ofLeaf (.definition "a" "shadowed" none none)]
        [.ofLeaf (.definition "b" "two" none none)])).result =
      (compile {} (definedAround
        [.ofLeaf (.definition "b" "two" (some "other title") (some "B"))]
        [.ofLeaf (.definition "a" "one" none none)])).result := by
  refine compile_eq_of_firstUrl?_eq {} (by decide) rfl ?_ ?_
  · exact ⟨⟨.inl rfl, ⟨.inl rfl, .inl rfl, trivial⟩, .inl rfl, trivial⟩,
      ⟨.inl rfl, .inl rfl, trivial⟩, trivial⟩
  · intro identifier
    show List.lookup identifier [("a", Url.text "one"), ("a", .text "shadowed"), ("b", .text "two")] =
      List.lookup identifier [("b", .text "two"), ("a", .text "one")]
    by_cases ha : identifier = "a"
    · rw [ha]
      rfl
    · simp [List.lookup_cons, beq_false_of_ne ha]

end Typst

end TypstPress
