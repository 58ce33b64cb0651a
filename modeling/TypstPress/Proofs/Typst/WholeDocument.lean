import TypstPress.Proofs.Typst.Markup

/-!
# Compiling is running one list of fragments

Two facts stand between a document and the list of fragments that
`run_document` wants for it. A tree that holds no document asks for no
footnote bodies, and the bodies that were collected from a tree are parts of
it, so they ask for none either. With both, `compile_result` says all there
is to say about compiling: the fragments of the document either meet a
defect, which is reported, or their pieces are the source.

What is collected is told apart from how it is collected: the footnotes are
definitions that stand somewhere in the tree (`mem_notes_collect`), no two of
them have one identifier (`nodup_notes_collect`), and the url of an identifier
is the one that it is defined as first, in document order (`url?_collect`).
-/

namespace TypstPress

open Node

/-! ## The collected footnotes -/

namespace Definitions

theorem hasNote_iff {d : Definitions} {identifier : String} :
    d.hasNote identifier = true ↔ identifier ∈ d.notes.map Prod.fst := by
  simp [hasNote, List.any_eq_true, List.mem_map]

/-- The notes after one more node: as before, or with a definition behind them
whose identifier is new. -/
theorem notes_collectNode (d : Definitions) (n : Node) :
    (d.collectNode n).notes = d.notes ∨
      ∃ identifier content m, n = .branch (.footnoteDefinition identifier) content m ∧
        d.hasNote identifier = false ∧
        (d.collectNode n).notes = d.notes ++ [(identifier, content)] := by
  unfold collectNode
  split
  · left
    split <;> rfl
  · next identifier content m =>
      split
      · exact Or.inl rfl
      · next hnote => exact Or.inr ⟨identifier, content, m, rfl, by simpa using hnote, rfl⟩
  · exact Or.inl rfl

theorem mem_notes_foldl {ns : List Node} {d : Definitions} {note : String × List Node}
    (h : note ∈ (ns.foldl collectNode d).notes) :
    note ∈ d.notes ∨ ∃ m, .branch (.footnoteDefinition note.1) note.2 m ∈ ns := by
  induction ns generalizing d with
  | nil => exact Or.inl h
  | cons n ns ih =>
      rw [List.foldl_cons] at h
      rcases ih h with hmem | ⟨m, hm⟩
      · rcases notes_collectNode d n with heq | ⟨identifier, content, m, hn, -, heq⟩
        · exact Or.inl (heq ▸ hmem)
        · rw [heq, List.mem_append, List.mem_singleton] at hmem
          rcases hmem with hmem | rfl
          · exact Or.inl hmem
          · exact Or.inr ⟨m, hn ▸ List.mem_cons_self⟩
      · exact Or.inr ⟨m, List.mem_cons_of_mem n hm⟩

theorem nodup_notes_foldl {ns : List Node} {d : Definitions}
    (h : (d.notes.map Prod.fst).Nodup) :
    ((ns.foldl collectNode d).notes.map Prod.fst).Nodup := by
  induction ns generalizing d with
  | nil => exact h
  | cons n ns ih =>
      rw [List.foldl_cons]
      refine ih ?_
      rcases notes_collectNode d n with heq | ⟨identifier, content, m, -, hnew, heq⟩
      · rw [heq]
        exact h
      · have hfresh : identifier ∉ d.notes.map Prod.fst := by
          rw [← hasNote_iff, hnew]
          exact Bool.false_ne_true
        rw [heq, List.map_append, List.nodup_append]
        refine ⟨h, by simp, ?_⟩
        intro a ha b hb hab
        rw [List.map_singleton, List.mem_singleton] at hb
        rw [hab, hb] at ha
        exact hfresh ha

theorem collect_eq (tree : Node) : collect tree = tree.preorder.foldl collectNode {} := by
  rw [collect, walk_eq_preorder]

/-- A collected footnote is a definition somewhere in the tree. -/
theorem mem_notes_collect {tree : Node} {note : String × List Node}
    (h : note ∈ (collect tree).notes) :
    ∃ m, .branch (.footnoteDefinition note.1) note.2 m ∈ tree.preorder := by
  rw [collect_eq] at h
  rcases mem_notes_foldl h with hnil | hmem
  · cases hnil
  · exact hmem

/-- Every collected footnote has an identifier of its own. -/
theorem nodup_notes_collect (tree : Node) : ((collect tree).notes.map Prod.fst).Nodup := by
  rw [collect_eq]
  exact nodup_notes_foldl List.nodup_nil

/-- The collected footnotes inherit what holds of every node below the root
of a document. -/
theorem allOf_notes_collect {p : Kind → Bool} {document : Node}
    (hroot : document.isDocument = true) (h : allOf p document.children = true)
    {note : String × List Node} (hnote : note ∈ (collect document).notes) :
    allOf p note.2 = true := by
  obtain ⟨m, hm⟩ := mem_notes_collect hnote
  rw [preorder_eq] at hm
  rcases List.mem_cons.1 hm with heq | hm
  · rw [← heq] at hroot
    cases hroot
  · exact (all_branch.1 (all_of_mem_preorderAll h hm)).2

end Definitions

/-! ## The collected links -/

/-- The identifier and the url of a link definition. -/
def Node.definition? : Node → Option (String × Url)
  | .leaf (.definition identifier url _ _) _ => some (identifier, url)
  | _ => none

/-- The url that an identifier is defined as first, in document order. -/
def Node.firstUrl? (tree : Node) (identifier : String) : Option Url :=
  (tree.preorder.filterMap definition?).lookup identifier

namespace Definitions

/-- A link definition adds its url, unless the identifier has one. -/
theorem links_collectNode (d : Definitions) (n : Node) :
    (d.collectNode n).links =
      d.links ++ n.definition?.toList.filter fun link => !(d.url? link.1).isSome := by
  cases n with
  | leaf l m =>
      cases l with
      | definition identifier url title label =>
          rw [collectNode, definition?, Option.toList_some, List.filter_singleton]
          cases (d.url? identifier).isSome with
          | true => exact (List.append_nil _).symm
          | false => rfl
      | _ => exact (List.append_nil _).symm
  | branch k cs m =>
      cases k with
      | footnoteDefinition identifier =>
          rw [collectNode]
          split <;> exact (List.append_nil _).symm
      | _ => exact (List.append_nil _).symm

theorem url?_collectNode (d : Definitions) (n : Node) (identifier : String) :
    (d.collectNode n).url? identifier =
      (d.url? identifier).or (n.definition?.toList.lookup identifier) := by
  rw [url?, links_collectNode, List.lookup_append, ← url?]
  cases n.definition? with
  | none => rfl
  | some link =>
      rw [Option.toList_some, List.filter_singleton]
      cases hknown : (d.url? link.1).isSome with
      | false => rfl
      | true =>
          -- the identifier of the link is known, so its new url is not asked for
          obtain ⟨first, hfirst⟩ := Option.isSome_iff_exists.1 hknown
          by_cases hlink : identifier = link.1
          · rw [hlink, hfirst, Option.some_or, Option.some_or]
          · have hnone : [link].lookup identifier = none :=
              List.lookup_eq_none_iff.2 (by simpa using hlink)
            rw [hnone]
            rfl

theorem url?_foldl (ns : List Node) (d : Definitions) (identifier : String) :
    (ns.foldl collectNode d).url? identifier =
      (d.url? identifier).or ((ns.filterMap definition?).lookup identifier) := by
  induction ns generalizing d with
  | nil => rw [List.foldl_nil, List.filterMap_nil, List.lookup_nil, Option.or_none]
  | cons n ns ih =>
      rw [List.foldl_cons, ih, url?_collectNode, Option.or_assoc, ← List.lookup_append]
      cases hn : n.definition? with
      | none => rw [List.filterMap_cons_none hn]; rfl
      | some link => rw [List.filterMap_cons_some hn]; rfl

/-- The urls that are collected are the first ones. -/
theorem url?_collect (tree : Node) (identifier : String) :
    (collect tree).url? identifier = tree.firstUrl? identifier := by
  rw [collect_eq, url?_foldl]
  rfl

end Definitions

namespace Typst

/-! ## Trees without documents ask for no footnote bodies -/

/-- A tree beside itself, all of whose kinds `p` accepts. -/
def Alone (p : Kind → Bool) (k k' : Kind) : Prop := k = k' ∧ p k = true

theorem alone_self {p : Kind → Bool} (k : Kind) (h : p k = true) : Alone p k k :=
  ⟨rfl, h⟩

/-- Whether only a document brings a fragment about: it asks for the footnote
bodies, or tells that they come to no end. -/
def Fragment.isOfDocument : Fragment → Bool
  | .noteBodies | .defect .endless => true
  | _ => false

/-- Whether fragments can be those of trees without documents. -/
def NoDocument (fs : List Fragment) : Prop := ∀ f ∈ fs, f.isOfDocument = false

namespace NoDocument

theorem append {fs gs : List Fragment} (h : NoDocument fs) (h' : NoDocument gs) :
    NoDocument (fs ++ gs) :=
  List.forall_mem_append.2 ⟨h, h'⟩

theorem of_direct {fs : List Fragment} (h : AllDirect fs) : NoDocument fs := by
  intro f hf
  have hdirect := h f hf
  cases f with
  | noteBodies | defect => cases hdirect
  | _ => rfl

theorem piece (t : String) : NoDocument [.source t] := of_direct (.one rfl)

theorem leaf (s : Setting) (l : Leaf) : NoDocument (leafFragments s l) := by
  rcases direct_leafFragments s l with h | ⟨t, h⟩
  · exact of_direct h
  · rw [h]
    exact List.forall_mem_singleton.2 rfl

theorem frame {fs gs hs : List Fragment} (hopening : AllDirect fs) (h : NoDocument gs)
    (hclosing : AllDirect hs) : NoDocument (fs ++ gs ++ hs) :=
  ((of_direct hopening).append h).append (of_direct hclosing)

theorem noteBodies_not_mem {fs : List Fragment} (h : NoDocument fs) : .noteBodies ∉ fs := by
  intro hmem
  cases h _ hmem

end NoDocument

theorem noDocument_correspondence (s : Setting) :
    Correspondence s s (Alone (!·.isDocument)) fun fs _ => NoDocument fs where
  layout h := by
    cases h.1
    rfl
  noDocument h hk := by
    obtain rfl := layout_eq_document hk
    cases h.2
  nil := .of_direct .nil
  append := .append
  leaf _ := .leaf s _
  frame _ _ h := .frame (direct_opening s _) h (direct_closing s _)
  item h := .frame (.one rfl) h (.one rfl)
  table hwords h := .frame (direct_tableOpening hwords) h (.one rfl)
  rowEnd := .piece _
  cell h := .frame (direct_cellOpening _ _) h (.one rfl)
  padding := .piece _
  strayRow := List.forall_mem_singleton.2 rfl
  unknownAlignment _ := List.forall_mem_singleton.2 rfl
  notTabular _ _ := List.forall_mem_singleton.2 rfl

theorem noDocument_fragmentsAll (s : Setting) {ns : List Node}
    (h : allOf (!·.isDocument) ns = true) : NoDocument (fragmentsAll s ns) :=
  allCorrespond (noDocument_correspondence s) (matchesAll_self alone_self h)

theorem noteBodies_not_mem_fragments (s : Setting) {n : Node}
    (h : n.all (!·.isDocument) = true) : .noteBodies ∉ fragments s n :=
  NoDocument.noteBodies_not_mem
    (corresponds (noDocument_correspondence s) (matches_self alone_self h))

theorem noteBodies_not_mem_fragmentsAll (s : Setting) {ns : List Node}
    (h : allOf (!·.isDocument) ns = true) : .noteBodies ∉ fragmentsAll s ns :=
  (noDocument_fragmentsAll s h).noteBodies_not_mem

/-! ## Compiling -/

/-- What a document is set with. -/
def settingOf (options : TypstOptions) (document : Node) : Setting :=
  { options, definitions := Definitions.collect document }

/-- The fragments that compiling a document runs. -/
def compiledFragments (options : TypstOptions) (document : Node) : List Fragment :=
  documentFragments (settingOf options document) document.children

theorem compile_eq (options : TypstOptions) {document : Node}
    (h : document.isDocument = true) :
    (compile options document).result =
      match (runTree (settingOf options document) document).defect with
      | some d => .error d.failure
      | none => .ok
          { source := String.join (runTree (settingOf options document) document).source
            assets := (runTree (settingOf options document) document).assets } := by
  rw [compile, if_pos h]
  simp only [settingOf]
  cases hd : (runTree { options, definitions := Definitions.collect document }
      document).defect with
  | some d => rfl
  | none => rfl

/-- Compiling a document without inner ones reports the first defect of its
fragments, or gives their pieces and images. -/
theorem compile_result (options : TypstOptions) {document : Node}
    (h : document.isWholeDocument = true) :
    (compile options document).result =
      match firstDefect (compiledFragments options document) with
      | some d => .error d.failure
      | none => .ok
          { source := String.join (sources (compiledFragments options document))
            assets := (assetUrls (compiledFragments options document)).map Asset.ofUrl } := by
  rw [isWholeDocument, Bool.and_eq_true] at h
  have hc := noteBodies_not_mem_fragmentsAll (settingOf options document) h.2
  have hn : ∀ note ∈ (settingOf options document).definitions.notes,
      .noteBodies ∉ fragmentsAll (settingOf options document) note.2 := fun note hnote =>
    noteBodies_not_mem_fragmentsAll _ (Definitions.allOf_notes_collect h.1 h.2 hnote)
  have hfree := noteBodies_not_mem_documentFragments hc hn
  have hrun : runTree (settingOf options document) document =
      run (fun cited => { cited }) [] (compiledFragments options document) := by
    obtain ⟨cs, m, rfl⟩ := eq_document h.1
    exact run_document hc hn _
  rw [← compiledFragments] at hfree
  rw [compile_eq options h.1, hrun, run_defect hfree]
  cases hd : firstDefect (compiledFragments options document) with
  | some d => rfl
  | none =>
      obtain ⟨hs, ha, -⟩ := run_result hfree hd (fun cited => { cited }) []
      simp only [hs, ha]

end Typst

end TypstPress
