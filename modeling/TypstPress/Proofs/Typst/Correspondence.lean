import Mathlib.Data.List.Forall2
import TypstPress.Proofs.Document.Preorder
import TypstPress.Proofs.Typst.Run

/-!
# Setting two trees side by side

Most of what there is to say about the fragments of a tree is said of two
trees of one shape: that they differ in nothing but literals, that they have
the same source, that one meets a defect where the other does. Each such fact
would be an induction over every kind of node, with the rules for list items,
for the columns of a table and for merged cells in the middle of it.

This file does that induction once. `Matches T` relates trees node by node,
`Correspondence` collects what a relation `Q` on fragments has to satisfy (it
survives joining, and each kind of node keeps it), and `corresponds` concludes
`Q` for the whole trees. A fact about a single tree is the case of a tree
beside itself.
-/

namespace TypstPress

/-- How the children of a branch are set. -/
inductive Layout where
  | document
  | flow
  | paragraph
  | items
  | item
  | table (alignments : List (Option String))
  | row
  | cell (colspan rowspan : Nat) (suppressed : Bool)
  | note
deriving DecidableEq

/-- How the children of a kind of branch are set. -/
def Branch.layout : Branch → Layout
  | .document => .document
  | .paragraph => .paragraph
  | .list .. => .items
  | .listItem => .item
  | .table _ alignments => .table alignments
  | .tableRow _ => .row
  | .tableCell colspan rowspan suppressed _ => .cell colspan rowspan suppressed
  | .footnoteDefinition _ => .note
  | _ => .flow

/-- Whether the children are set between an opening and a closing of their
own, wherever the node stands. -/
def Layout.isFramed : Layout → Bool
  | .flow | .paragraph | .items | .item | .cell .. => true
  | .document | .table _ | .row | .note => false

/-! Layouts tell the kinds of branches that are set in a way of their own. -/

theorem layout_eq_document {k : Branch} (h : k.layout = .document) : k = .document := by
  cases k with
  | document => rfl
  | _ => cases h

theorem layout_eq_paragraph {k : Branch} (h : k.layout = .paragraph) : k = .paragraph := by
  cases k with
  | paragraph => rfl
  | _ => cases h

theorem layout_eq_table {k : Branch} {alignments : List (Option String)}
    (h : k.layout = .table alignments) : ∃ headed, k = .table headed alignments := by
  cases k with
  | table headed alignments' =>
      cases h
      exact ⟨headed, rfl⟩
  | _ => cases h

theorem layout_eq_row {k : Branch} (h : k.layout = .row) :
    ∃ isHeader, k = .tableRow isHeader := by
  cases k with
  | tableRow isHeader => exact ⟨isHeader, rfl⟩
  | _ => cases h

theorem layout_eq_cell {k : Branch} {colspan rowspan : Nat} {suppressed : Bool}
    (h : k.layout = .cell colspan rowspan suppressed) :
    ∃ alignment, k = .tableCell colspan rowspan suppressed alignment := by
  cases k with
  | tableCell colspan' rowspan' suppressed' alignment =>
      cases h
      exact ⟨alignment, rfl⟩
  | _ => cases h

theorem layout_eq_note {k : Branch} (h : k.layout = .note) :
    ∃ identifier, k = .footnoteDefinition identifier := by
  cases k with
  | footnoteDefinition identifier => exact ⟨identifier, rfl⟩
  | _ => cases h

namespace Node

mutual

/-- Whether two trees have one shape, with related kinds at every place. -/
def Matches (T : Kind → Kind → Prop) : Node → Node → Prop
  | .leaf l _, .leaf l' _ => T (.leaf l) (.leaf l')
  | .branch k cs _, .branch k' cs' _ => T (.branch k) (.branch k') ∧ MatchesAll T cs cs'
  | _, _ => False

/-- Whether two rows of trees match one by one. -/
def MatchesAll (T : Kind → Kind → Prop) : List Node → List Node → Prop
  | [], [] => True
  | n :: ns, n' :: ns' => n.Matches T n' ∧ MatchesAll T ns ns'
  | _, _ => False

end

theorem Matches.kind {T : Kind → Kind → Prop} {n n' : Node} (h : n.Matches T n') :
    T n.kind n'.kind := by
  cases n with
  | leaf l m =>
      cases n' with
      | leaf l' m' => exact h
      | branch k' cs' m' => exact h.elim
  | branch k cs m =>
      cases n' with
      | leaf l' m' => exact h.elim
      | branch k' cs' m' => exact h.1

theorem MatchesAll.length_eq {T : Kind → Kind → Prop} {ns ns' : List Node}
    (h : MatchesAll T ns ns') : ns.length = ns'.length := by
  induction ns generalizing ns' with
  | nil =>
      cases ns' with
      | nil => rfl
      | cons n' ns' => exact h.elim
  | cons n ns ih =>
      cases ns' with
      | nil => exact h.elim
      | cons n' ns' => exact congrArg (· + 1) (ih h.2)

/-- Rows match when they are as long and match tree by tree. -/
theorem matchesAll_iff {T : Kind → Kind → Prop} {ns ns' : List Node} :
    MatchesAll T ns ns' ↔ List.Forall₂ (Matches T) ns ns' := by
  induction ns generalizing ns' with
  | nil =>
      cases ns' with
      | nil => exact ⟨fun _ => .nil, fun _ => trivial⟩
      | cons n' ns' => exact ⟨False.elim, nofun⟩
  | cons n ns ih =>
      cases ns' with
      | nil => exact ⟨False.elim, nofun⟩
      | cons n' ns' => rw [MatchesAll, ih, List.forall₂_cons]

theorem MatchesAll.append {T : Kind → Kind → Prop} {ms ms' ns ns' : List Node}
    (h : MatchesAll T ms ms') (h' : MatchesAll T ns ns') :
    MatchesAll T (ms ++ ns) (ms' ++ ns') :=
  matchesAll_iff.2 (List.rel_append (matchesAll_iff.1 h) (matchesAll_iff.1 h'))

mutual

theorem matches_self {T : Kind → Kind → Prop} {p : Kind → Bool}
    (hT : ∀ k, p k = true → T k k) {n : Node} (h : n.all p = true) : n.Matches T n := by
  match n with
  | .leaf l m =>
      rw [all_leaf] at h
      exact hT _ h
  | .branch k cs m =>
      rw [all_branch] at h
      exact ⟨hT _ h.1, matchesAll_self hT h.2⟩

theorem matchesAll_self {T : Kind → Kind → Prop} {p : Kind → Bool}
    (hT : ∀ k, p k = true → T k k) {ns : List Node} (h : allOf p ns = true) :
    MatchesAll T ns ns := by
  match ns with
  | [] => exact trivial
  | n :: ns =>
      rw [allOf_cons] at h
      exact ⟨matches_self hT h.1, matchesAll_self hT h.2⟩

end

mutual

theorem all_of_matches {T : Kind → Kind → Prop} {p : Kind → Bool}
    (hT : ∀ k k', T k k' → p k = true ∧ p k' = true) {n n' : Node} (h : n.Matches T n') :
    n.all p = true ∧ n'.all p = true := by
  match n, n', h with
  | .leaf l m, .leaf l' m', h =>
      rw [all_leaf, all_leaf]
      exact hT _ _ h
  | .branch k cs m, .branch k' cs' m', h =>
      have hkind := hT _ _ h.1
      have hchildren := allOf_of_matchesAll hT h.2
      rw [all_branch, all_branch]
      exact ⟨⟨hkind.1, hchildren.1⟩, hkind.2, hchildren.2⟩

theorem allOf_of_matchesAll {T : Kind → Kind → Prop} {p : Kind → Bool}
    (hT : ∀ k k', T k k' → p k = true ∧ p k' = true) {ns ns' : List Node}
    (h : MatchesAll T ns ns') : allOf p ns = true ∧ allOf p ns' = true := by
  match ns, ns', h with
  | [], [], _ => exact ⟨allOf_nil, allOf_nil⟩
  | n :: ns, n' :: ns', h =>
      have hfirst := all_of_matches hT h.1
      have hrest := allOf_of_matchesAll hT h.2
      rw [allOf_cons, allOf_cons]
      exact ⟨⟨hfirst.1, hrest.1⟩, hfirst.2, hrest.2⟩

end

mutual

theorem Matches.preorder {T : Kind → Kind → Prop} {n n' : Node} (h : n.Matches T n') :
    List.Forall₂ (Matches T) n.preorder n'.preorder := by
  match n, n', h with
  | .leaf l m, .leaf l' m', h =>
      rw [Node.preorder, Node.preorder]
      exact .cons h .nil
  | .branch k cs m, .branch k' cs' m', h =>
      rw [Node.preorder, Node.preorder]
      exact .cons h (MatchesAll.preorderAll h.2)

theorem MatchesAll.preorderAll {T : Kind → Kind → Prop} {ns ns' : List Node}
    (h : MatchesAll T ns ns') :
    List.Forall₂ (Matches T) (preorderAll ns) (preorderAll ns') := by
  match ns, ns', h with
  | [], [], _ =>
      rw [Node.preorderAll]
      exact .nil
  | n :: ns, n' :: ns', h =>
      rw [Node.preorderAll, Node.preorderAll]
      exact List.rel_append (Matches.preorder h.1) (MatchesAll.preorderAll h.2)

end

end Node

namespace Typst

open Node

/-- What stands before the children of a branch with a frame. -/
def opening (s : Setting) : Branch → List Fragment
  | .heading level => [.source s!"#heading(level: {level}, ["]
  | .paragraph => [.source "#par["]
  | .blockQuote => [.source "#quote(block: true)[\n"]
  | .list ordered start _ => listOpening ordered start
  | .containerDirective name attributes =>
    if name == "figure" then figureOpening attributes else []
  | .emphasis => [.source "#emph["]
  | .strong => [.source "#strong["]
  | .strikethrough => [.source "#strike["]
  | .link url _ => linkOpening url
  | .linkReference identifier _ _ =>
    match s.definitions.url? identifier with
    | some url => linkOpening url
    | none => [missingDefinition "Link reference" identifier, .source "#\"[\""]
  | _ => []

/-- What stands after the children of a branch with a frame. -/
def closing (s : Setting) : Branch → List Fragment
  | .heading _ => [.source "])\n"]
  | .paragraph | .blockQuote => [.source "]\n"]
  | .list .. => [.source ")\n"]
  | .containerDirective name _ => if name == "figure" then [.source "]\n"] else []
  | .emphasis | .strong | .strikethrough => [.source "]"]
  | .link .. => [.source "])"]
  | .linkReference identifier label form =>
    match s.definitions.url? identifier with
    | some _ => [.source "])"]
    | none => [.source (referenceEnd form label identifier)]
  | _ => []

/-- The children of a branch with a frame. -/
def inner (s : Setting) (layout : Layout) (cs : List Node) : List Fragment :=
  match layout with
  | .items => itemFragments s cs
  | .item => unwrappedFragments s cs
  | _ => fragmentsAll s cs

theorem fragments_framed (s : Setting) {k : Branch} (h : k.layout.isFramed = true)
    (cs : List Node) (m : Metadata) :
    fragments s (.branch k cs m) = opening s k ++ inner s k.layout cs ++ closing s k := by
  cases k with
  | document | table | tableRow | footnoteDefinition => cases h
  | containerDirective name attributes =>
      simp only [fragments, opening, inner, closing, Branch.layout]
      by_cases hname : (name == "figure") = true
      · simp only [if_pos hname]
      · simp only [if_neg hname, List.nil_append, List.append_nil]
  | linkReference identifier label form =>
      simp only [fragments, opening, inner, closing, Branch.layout]
      cases s.definitions.url? identifier <;> rfl
  | _ =>
      simp only [fragments, opening, inner, closing, Branch.layout, List.cons_append,
        List.nil_append, List.append_nil]

theorem unwrappedFragments_cons (s : Setting) {n : Node}
    (h : ∀ cs m, n ≠ .branch .paragraph cs m) (ns : List Node) :
    unwrappedFragments s (n :: ns) = fragments s n ++ unwrappedFragments s ns := by
  cases n with
  | leaf l m => rw [unwrappedFragments]; exact fun cs m h => nomatch h
  | branch k cs m =>
      cases k with
      | paragraph => exact absurd rfl (h cs m)
      | _ => rw [unwrappedFragments]; exact fun cs m h => nomatch h

theorem branch_ne_row {k : Branch} (h : k.layout ≠ .row) {cs : List Node} {m : Metadata}
    (isHeader : Bool) (cells : List Node) (m' : Metadata) :
    Node.branch k cs m ≠ .branch (.tableRow isHeader) cells m' := by
  intro he
  injection he with he
  exact h (by rw [he]; rfl)

theorem branch_ne_paragraph {k : Branch} (h : k.layout ≠ .paragraph) {cs : List Node}
    {m : Metadata} (cs' : List Node) (m' : Metadata) :
    Node.branch k cs m ≠ .branch .paragraph cs' m' := by
  intro he
  injection he with he
  exact h (by rw [he]; rfl)

theorem branch_ne_cell {k : Branch}
    (h : ∀ colspan rowspan suppressed, k.layout ≠ .cell colspan rowspan suppressed)
    {cs : List Node} {m : Metadata} (colspan rowspan : Nat) (suppressed : Bool)
    (alignment : Option String) (cs' : List Node) (m' : Metadata) :
    Node.branch k cs m ≠ .branch (.tableCell colspan rowspan suppressed alignment) cs' m' := by
  intro he
  injection he with he
  exact h colspan rowspan suppressed (by rw [he]; rfl)

theorem rowFragments_cons (s : Setting) (columns : Nat) {row : Node}
    (h : ∀ isHeader cells m, row ≠ .branch (.tableRow isHeader) cells m) (rows : List Node) :
    rowFragments s columns (row :: rows) =
      if columns == 0 then .source "\n" :: rowFragments s columns rows
      else [.defect (.notTabular row.kindName "cells")] := by
  cases row with
  | leaf l m => rw [rowFragments]; exact fun isHeader cells m h => nomatch h
  | branch k cs m =>
      cases k with
      | tableRow isHeader => exact absurd rfl (h isHeader cs m)
      | _ => rw [rowFragments]; exact fun isHeader cells m h => nomatch h

theorem cellFragments_cons (s : Setting) (columns : Nat) {cell : Node}
    (h : ∀ colspan rowspan suppressed alignment cs m,
      cell ≠ .branch (.tableCell colspan rowspan suppressed alignment) cs m)
    (cells : List Node) :
    cellFragments s (columns + 1) (cell :: cells) =
      [.defect (.notTabular cell.kindName "suppressed")] := by
  cases cell with
  | leaf l m => rw [cellFragments]; exact fun _ _ _ _ _ _ h => nomatch h
  | branch k cs m =>
      cases k with
      | tableCell colspan rowspan suppressed alignment => exact absurd rfl (h _ _ _ _ cs m)
      | _ => rw [cellFragments]; exact fun _ _ _ _ _ _ h => nomatch h

/-- What makes `Q` hold of the fragments of all trees that match by `T`: it
survives joining, and every kind of node keeps it. -/
structure Correspondence (s s' : Setting) (T : Kind → Kind → Prop)
    (Q : List Fragment → List Fragment → Prop) : Prop where
  layout : ∀ {k k'}, T (.branch k) (.branch k') → k.layout = k'.layout
  noDocument : ∀ {k k'}, T (.branch k) (.branch k') → k.layout ≠ .document
  nil : Q [] []
  append : ∀ {fs fs' gs gs'}, Q fs fs' → Q gs gs' → Q (fs ++ gs) (fs' ++ gs')
  leaf : ∀ {l l'}, T (.leaf l) (.leaf l') → Q (leafFragments s l) (leafFragments s' l')
  frame : ∀ {k k' fs fs'}, T (.branch k) (.branch k') → k.layout.isFramed = true →
    Q fs fs' → Q (opening s k ++ fs ++ closing s k) (opening s' k' ++ fs' ++ closing s' k')
  item : ∀ {fs fs'}, Q fs fs' →
    Q (.source "[" :: fs ++ [.source "],\n"]) (.source "[" :: fs' ++ [.source "],\n"])
  table : ∀ {columns words rows rows'}, columnAlignments columns = .ok words → Q rows rows' →
    Q (tableOpening words ++ rows ++ [.source "))\n"])
      (tableOpening words ++ rows' ++ [.source "))\n"])
  rowEnd : Q [.source "\n"] [.source "\n"]
  cell : ∀ {colspan rowspan fs fs'}, Q fs fs' →
    Q (cellOpening colspan rowspan ++ fs ++ [.source "], "])
      (cellOpening colspan rowspan ++ fs' ++ [.source "], "])
  padding : Q [.source "table.cell()[], "] [.source "table.cell()[], "]
  strayRow : Q [.defect .strayRow] [.defect .strayRow]
  unknownAlignment : ∀ alignment,
    Q [.defect (.unknownAlignment alignment)] [.defect (.unknownAlignment alignment)]
  notTabular : ∀ {n n' : Node} part, T n.kind n'.kind →
    Q [.defect (.notTabular n.kindName part)] [.defect (.notTabular n'.kindName part)]

section

variable {s s' : Setting} {T : Kind → Kind → Prop}
  {Q : List Fragment → List Fragment → Prop}

theorem tableColumns_cons {row : Node}
    (h : ∀ isHeader cells m, row ≠ .branch (.tableRow isHeader) cells m) (rows : List Node) :
    tableColumns [] (row :: rows) = .error (.notTabular row.kindName "cells") := by
  cases row with
  | leaf l m => rfl
  | branch k cs m =>
      cases k with
      | tableRow isHeader => exact absurd rfl (h isHeader cs m)
      | _ => rfl

/-- Tables that match have the same columns, or both lack a first row. -/
theorem tableColumns_corresponds (C : Correspondence s s' T Q) {row row' : Node}
    {rows rows' : List Node} (h : MatchesAll T (row :: rows) (row' :: rows'))
    (alignments : List (Option String)) :
    (∃ columns, tableColumns alignments (row :: rows) = .ok columns ∧
        tableColumns alignments (row' :: rows') = .ok columns) ∨
      (tableColumns alignments (row :: rows) = .error (.notTabular row.kindName "cells") ∧
        tableColumns alignments (row' :: rows') =
          .error (.notTabular row'.kindName "cells")) := by
  cases alignments with
  | cons alignment alignments =>
      refine Or.inl ⟨alignment :: alignments, ?_, ?_⟩ <;> simp [tableColumns]
  | nil =>
      -- without alignments the first row tells how many columns there are
      match row, row', h.1 with
      | .leaf l m, .leaf l' m', _ => exact Or.inr ⟨rfl, rfl⟩
      | .branch k cs m, .branch k' cs' m', hrow =>
          have hlayout := C.layout hrow.1
          by_cases hk : k.layout = .row
          · obtain ⟨isHeader, rfl⟩ := layout_eq_row hk
            obtain ⟨isHeader', rfl⟩ := layout_eq_row (hlayout.symm.trans hk)
            refine Or.inl ⟨cs.map fun _ => none, rfl, ?_⟩
            rw [tableColumns, List.map_const', List.map_const', hrow.2.length_eq]
          · refine Or.inr ⟨tableColumns_cons ?_ rows, tableColumns_cons ?_ rows'⟩
            · exact branch_ne_row hk
            · exact branch_ne_row (hlayout ▸ hk)

theorem padding_corresponds (C : Correspondence s s' T Q) (columns : Nat) :
    Q (List.replicate columns (.source "table.cell()[], "))
      (List.replicate columns (.source "table.cell()[], ")) := by
  induction columns with
  | zero => exact C.nil
  | succ columns ih =>
      rw [List.replicate_succ]
      exact C.append C.padding ih

theorem table_corresponds (C : Correspondence s s' T Q) {headed headed' : Bool}
    {alignments : List (Option String)} {rows rows' : List Node} {m m' : Metadata}
    (h : MatchesAll T rows rows')
    (hrows : ∀ columns, Q (rowFragments s columns rows) (rowFragments s' columns rows')) :
    Q (fragments s (.branch (.table headed alignments) rows m))
      (fragments s' (.branch (.table headed' alignments) rows' m')) := by
  match rows, rows', h with
  | [], [], _ =>
      rw [fragments, fragments]
      exact C.nil
  | row :: rows, row' :: rows', h =>
      rw [fragments, fragments]
      rcases tableColumns_corresponds C h alignments with ⟨columns, hc, hc'⟩ | ⟨hc, hc'⟩
      · rw [hc, hc']
        simp only []
        cases hwords : columnAlignments columns with
        | error alignment => exact C.unknownAlignment alignment
        | ok words => exact C.table hwords (hrows columns.length)
      · rw [hc, hc']
        exact C.notTabular "cells" h.1.kind

/-- What is no row is skipped in a table without columns, and is a defect in
any other. -/
theorem strayRow_corresponds (C : Correspondence s s' T Q) {columns : Nat} {row row' : Node}
    {rows rows' : List Node} (h : T row.kind row'.kind)
    (hrow : ∀ isHeader cells m, row ≠ .branch (.tableRow isHeader) cells m)
    (hrow' : ∀ isHeader cells m, row' ≠ .branch (.tableRow isHeader) cells m)
    (hrest : Q (rowFragments s columns rows) (rowFragments s' columns rows')) :
    Q (rowFragments s columns (row :: rows)) (rowFragments s' columns (row' :: rows')) := by
  rw [rowFragments_cons s columns hrow, rowFragments_cons s' columns hrow']
  by_cases hzero : (columns == 0) = true
  · rw [if_pos hzero, if_pos hzero]
    exact C.append C.rowEnd hrest
  · rw [if_neg hzero, if_neg hzero]
    exact C.notTabular "cells" h

mutual

/-- Trees that match have corresponding fragments. -/
theorem corresponds (C : Correspondence s s' T Q) {n n' : Node} (h : n.Matches T n') :
    Q (fragments s n) (fragments s' n') := by
  match n, n', h with
  | .leaf l m, .leaf l' m', h =>
      rw [fragments, fragments]
      exact C.leaf h
  | .branch k cs m, .branch k' cs' m', ⟨hk, hcs⟩ =>
      have hlayout := C.layout hk
      have hrows := fun columns => rowsCorrespond C columns hcs
      cases hl : k.layout with
      | document => exact absurd hl (C.noDocument hk)
      | flow | paragraph | cell =>
          have hf : k.layout.isFramed = true := by rw [hl]; rfl
          rw [fragments_framed s hf, fragments_framed s' (hlayout ▸ hf), ← hlayout, hl]
          exact C.frame hk hf (allCorrespond C hcs)
      | items =>
          have hf : k.layout.isFramed = true := by rw [hl]; rfl
          rw [fragments_framed s hf, fragments_framed s' (hlayout ▸ hf), ← hlayout, hl]
          exact C.frame hk hf (itemsCorrespond C hcs)
      | item =>
          have hf : k.layout.isFramed = true := by rw [hl]; rfl
          rw [fragments_framed s hf, fragments_framed s' (hlayout ▸ hf), ← hlayout, hl]
          exact C.frame hk hf (unwrappedCorrespond C hcs)
      | table alignments =>
          obtain ⟨headed, rfl⟩ := layout_eq_table hl
          obtain ⟨headed', rfl⟩ := layout_eq_table (hlayout.symm.trans hl)
          exact table_corresponds C hcs hrows
      | row =>
          obtain ⟨isHeader, rfl⟩ := layout_eq_row hl
          obtain ⟨isHeader', rfl⟩ := layout_eq_row (hlayout.symm.trans hl)
          rw [fragments, fragments]
          exact C.strayRow
      | note =>
          obtain ⟨identifier, rfl⟩ := layout_eq_note hl
          obtain ⟨identifier', rfl⟩ := layout_eq_note (hlayout.symm.trans hl)
          rw [fragments, fragments]
          exact C.nil
termination_by sizeOf n

theorem allCorrespond (C : Correspondence s s' T Q) {ns ns' : List Node}
    (h : MatchesAll T ns ns') : Q (fragmentsAll s ns) (fragmentsAll s' ns') := by
  match ns, ns', h with
  | [], [], _ =>
      rw [fragmentsAll, fragmentsAll]
      exact C.nil
  | n :: ns, n' :: ns', h =>
      rw [fragmentsAll, fragmentsAll]
      exact C.append (corresponds C h.1) (allCorrespond C h.2)
termination_by sizeOf ns

theorem itemsCorrespond (C : Correspondence s s' T Q) {ns ns' : List Node}
    (h : MatchesAll T ns ns') : Q (itemFragments s ns) (itemFragments s' ns') := by
  match ns, ns', h with
  | [], [], _ =>
      rw [itemFragments, itemFragments]
      exact C.nil
  | n :: ns, n' :: ns', h =>
      rw [itemFragments, itemFragments]
      simpa using C.append (C.item (corresponds C h.1)) (itemsCorrespond C h.2)
termination_by sizeOf ns

theorem unwrappedCorrespond (C : Correspondence s s' T Q) {ns ns' : List Node}
    (h : MatchesAll T ns ns') : Q (unwrappedFragments s ns) (unwrappedFragments s' ns') := by
  match ns, ns', h with
  | [], [], _ =>
      rw [unwrappedFragments, unwrappedFragments]
      exact C.nil
  | .leaf l m :: ns, .leaf l' m' :: ns', h =>
      rw [unwrappedFragments_cons s (fun _ _ => Node.noConfusion),
        unwrappedFragments_cons s' (fun _ _ => Node.noConfusion)]
      exact C.append (corresponds C h.1) (unwrappedCorrespond C h.2)
  | .branch k cs m :: ns, .branch k' cs' m' :: ns', h =>
      have hlayout := C.layout h.1.1
      have hwhole := corresponds C h.1
      have hcontent := allCorrespond C h.1.2
      have hrest := unwrappedCorrespond C h.2
      by_cases hk : k.layout = .paragraph
      · have hp := layout_eq_paragraph hk
        have hp' := layout_eq_paragraph (hlayout.symm.trans hk)
        subst hp hp'
        rw [unwrappedFragments, unwrappedFragments]
        exact C.append hcontent hrest
      · rw [unwrappedFragments_cons s (branch_ne_paragraph hk),
          unwrappedFragments_cons s' (branch_ne_paragraph (hlayout ▸ hk))]
        exact C.append hwhole hrest
termination_by sizeOf ns

theorem rowsCorrespond (C : Correspondence s s' T Q) (columns : Nat) {rows rows' : List Node}
    (h : MatchesAll T rows rows') :
    Q (rowFragments s columns rows) (rowFragments s' columns rows') := by
  match rows, rows', h with
  | [], [], _ =>
      rw [rowFragments, rowFragments]
      exact C.nil
  | .leaf l m :: rows, .leaf l' m' :: rows', h =>
      exact strayRow_corresponds C h.1 (fun _ _ _ => Node.noConfusion)
        (fun _ _ _ => Node.noConfusion) (rowsCorrespond C columns h.2)
  | .branch k cells m :: rows, .branch k' cells' m' :: rows', h =>
      have hlayout := C.layout h.1.1
      have hcells := cellsCorrespond C columns h.1.2
      have hrest := rowsCorrespond C columns h.2
      by_cases hk : k.layout = .row
      · obtain ⟨isHeader, rfl⟩ := layout_eq_row hk
        obtain ⟨isHeader', rfl⟩ := layout_eq_row (hlayout.symm.trans hk)
        rw [rowFragments, rowFragments]
        exact C.append hcells (C.append C.rowEnd hrest)
      · exact strayRow_corresponds C h.1.1 (branch_ne_row hk) (branch_ne_row (hlayout ▸ hk))
          hrest
termination_by sizeOf rows

theorem cellsCorrespond (C : Correspondence s s' T Q) (columns : Nat) {cells cells' : List Node}
    (h : MatchesAll T cells cells') :
    Q (cellFragments s columns cells) (cellFragments s' columns cells') := by
  match columns, cells, cells', h with
  | 0, cells, cells', _ =>
      rw [cellFragments, cellFragments]
      exact C.nil
  | columns + 1, [], [], _ =>
      rw [cellFragments, cellFragments]
      exact padding_corresponds C (columns + 1)
  | columns + 1, .leaf l m :: cells, .leaf l' m' :: cells', h =>
      rw [cellFragments_cons s columns (fun _ _ _ _ _ _ => Node.noConfusion),
        cellFragments_cons s' columns (fun _ _ _ _ _ _ => Node.noConfusion)]
      exact C.notTabular "suppressed" h.1
  | columns + 1, .branch k cs m :: cells, .branch k' cs' m' :: cells', h =>
      have hlayout := C.layout h.1.1
      have hcontent := allCorrespond C h.1.2
      have hrest := cellsCorrespond C columns h.2
      cases hl : k.layout with
      | cell colspan rowspan suppressed =>
          obtain ⟨alignment, rfl⟩ := layout_eq_cell hl
          obtain ⟨alignment', rfl⟩ := layout_eq_cell (hlayout.symm.trans hl)
          rw [cellFragments, cellFragments]
          refine C.append ?_ hrest
          cases suppressed with
          | true => exact C.nil
          | false => exact C.cell hcontent
      | _ =>
          have hne : ∀ colspan rowspan suppressed,
              k.layout ≠ .cell colspan rowspan suppressed := by
            intro _ _ _ hcell
            rw [hl] at hcell
            cases hcell
          rw [cellFragments_cons s columns (branch_ne_cell hne),
            cellFragments_cons s' columns (branch_ne_cell (hlayout ▸ hne))]
          exact C.notTabular "suppressed" h.1.1
termination_by sizeOf cells

end

end

end Typst

end TypstPress
