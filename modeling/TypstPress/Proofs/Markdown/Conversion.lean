import TypstPress.Proofs.Document.PlainText
import TypstPress.Proofs.Markdown.Reading

/-!
# Nothing that is reached is lost

What a token means depends on where it stands: the same kind may be a block, an
item of a list or nothing at all. `Role` names the seven things that it may be
read as, and `Role.below` says in one table as what the children of a token are
read in turn. A token is reached if the roles lead to it from the top.

The document then holds what the tokens that are reached hold, in the order in
which they are reached (`leaves_blockNodesAll`). This is said of every leaf, of
which the texts and the images are two selections. The order is that of the
tokens with one exception, made by tables: the header is set in front of the
bodies wherever it stands, and of several headers the last one counts
(`asRead`). In tables that have one header at most, and that at the front, there
is nothing to rearrange (`reachedEach_asRead`).
-/

namespace TypstPress

namespace Node

/-- What the leaves of several trees hold, in document order. -/
def leavesOf (ns : List Node) : List Leaf := (preorderAll ns).filterMap leaf?

theorem leavesOf_append (ns ns' : List Node) :
    leavesOf (ns ++ ns') = leavesOf ns ++ leavesOf ns' := by
  rw [leavesOf, preorderAll_append, List.filterMap_append, leavesOf, leavesOf]

theorem leavesOf_cons (n : Node) (ns : List Node) :
    leavesOf (n :: ns) = leavesOf [n] ++ leavesOf ns :=
  leavesOf_append [n] ns

theorem leavesOf_branch (k : Branch) (cs : List Node) :
    leavesOf [.ofBranch k cs] = leavesOf cs := by
  rw [leavesOf, ofBranch, preorderAll, preorderAll, List.append_nil, preorder,
    List.filterMap_cons_none rfl, leavesOf]

end Node

/-- The alternative text of a leaf that is an image. -/
def Leaf.altText? : Leaf → Option String
  | .image _ altText .. => some altText
  | .imageReference _ _ _ altText _ => some altText
  | _ => none

namespace Markdown

open Node

/-! ## Roles -/

/-- What a token is read as, by where it stands. -/
inductive Role where
  | block
  | item
  | note
  | part
  | row
  | cell
  | inline
deriving DecidableEq

/-- What the children of a token are read as, if it is one that is known where it
stands and has children. Anything counts as a note among footnotes, and as a row
in the body of a table. -/
def Role.below : Role → TokenKind → Option Role
  | .block, .heading _ | .block, .paragraph | .block, .blockText | .block, .leafDirective .. =>
    some .inline
  | .block, .blockQuote | .block, .containerDirective .. => some .block
  | .block, .list .. => some .item
  | .block, .footnotes => some .note
  | .block, .table => some .part
  | .item, .listItem => some .block
  | .note, _ => some .block
  | .part, .tableHead => some .cell
  | .part, .tableBody => some .row
  | .row, _ => some .cell
  | .cell, .tableCell _ => some .inline
  | .inline, .strong | .inline, .emphasis | .inline, .strikethrough | .inline, .link _ =>
    some .inline
  | _, _ => none

/-- Whether a kind is known among blocks. -/
def TokenKind.isBlock : TokenKind → Bool
  | .heading _ | .paragraph | .blockText | .blockCode _ | .blockQuote | .list .. | .table
  | .thematicBreak | .blockHtml | .blockMath | .footnotes | .containerDirective ..
  | .leafDirective .. | .typstDirective | .blockError => true
  | _ => false

/-- Whether a kind is known among inlines. -/
def TokenKind.isInline : TokenKind → Bool
  | .text | .strong | .emphasis | .codespan | .link _ | .image _ | .linebreak | .softbreak
  | .strikethrough | .inlineHtml | .inlineMath | .blockMath | .footnoteRef => true
  | _ => false

/-- An order of what is reached below the children of a token. Each child comes
with its kind and with what is reached from it. -/
def Order := Role → List (TokenKind × List (Role × Token)) → List (Role × Token)

mutual

/-- The tokens that are reached from a token, and what they are read as. -/
def Token.reached (order : Order) (r : Role) : Token → List (Role × Token)
  | .mk kind raw nested children =>
    (r, .mk kind raw nested children) ::
      match r.below kind with
      | some below => order below (reachedEach order below children)
      | none => []

/-- What is reached from each of several tokens. -/
def reachedEach (order : Order) (r : Role) :
    List Token → List (TokenKind × List (Role × Token))
  | [] => []
  | t :: ts => (t.kind, t.reached order r) :: reachedEach order r ts

end

/-- The tokens that are reached from several tokens. -/
def reachedAll (order : Order) (r : Role) (ts : List Token) : List (Role × Token) :=
  order r (reachedEach order r ts)

/-- The order of the tokens themselves. -/
def asWritten : Order := fun _ found => found.flatMap Prod.snd

/-- The order in which tokens are read: of the parts of a table, the last header
comes first and the others do not count. -/
def asRead : Order
  | .part, found =>
    ((found.filter (·.1 == .tableHead)).getLast?.map Prod.snd).getD [] ++
      (found.filter (·.1 != .tableHead)).flatMap Prod.snd
  | _, found => found.flatMap Prod.snd

/-! ## What tokens hold -/

/-- The leaf that a token makes by itself, if it makes one. -/
def leafOf? : Role × Token → Option Leaf
  | (.inline, .mk kind raw _ children) =>
    match kind with
    | .text => some (.text raw)
    | .codespan => some (.code raw)
    | .image target => (imageNode target children).leaf?
    | .linebreak => some (.lineBreak false)
    | .softbreak => some (.lineBreak true)
    | .inlineHtml => some (.htmlInline raw)
    | .inlineMath => some (.mathInline raw)
    | .blockMath => some (.mathBlock raw)
    | .footnoteRef => some (.footnoteReference (identifierOf raw))
    | _ => none
  | (.block, .mk kind raw _ _) =>
    match kind with
    | .blockCode info => (codeNode raw info).leaf?
    | .thematicBreak => some .thematicBreak
    | .blockHtml => some (.htmlBlock raw)
    | .blockMath => some (.mathBlock raw)
    | .typstDirective => some (.typstContent raw)
    | .blockError => some (.text (unknownText raw))
    | _ => none
  | _ => none

/-- The text of a token that is reached as text. Directives that are not known
are kept as text without the blanks around them. -/
def textOf? : Role × Token → Option String
  | (.inline, .mk .text raw _ _) => some raw
  | (.block, .mk .blockError raw _ _) => some (unknownText raw)
  | _ => none

mutual

/-- The tokens at the bottom, which have no list of children. -/
def Token.bottom : Token → List Token
  | .mk kind raw nested children =>
    if nested then bottomAll children else [.mk kind raw nested children]

/-- The tokens at the bottom of several tokens. -/
def bottomAll : List Token → List Token
  | [] => []
  | t :: ts => t.bottom ++ bottomAll ts

end

/-- What a token at the bottom adds to an alternative text. -/
def shownText (t : Token) : String :=
  if t.kind == .softbreak || t.kind == .linebreak then " " else t.raw

/-- The alternative text of tokens. -/
def altTextOf (ts : List Token) : String := String.join ((bottomAll ts).map shownText)

/-- The alternative text of a token that is reached as an image. -/
def altOf? : Role × Token → Option String
  | (.inline, .mk (.image _) _ _ children) => some (altTextOf children)
  | _ => none

mutual

theorem plainText_eq (t : Token) : t.plainText = String.join (t.bottom.map shownText) := by
  match t with
  | .mk kind raw nested children =>
      rw [Token.plainText, Token.bottom]
      cases nested with
      | true =>
          rw [if_pos rfl, if_pos rfl]
          exact plainTexts_eq children
      | false =>
          rw [if_neg Bool.false_ne_true, if_neg Bool.false_ne_true, List.map_singleton,
            String.join_cons, String.join_nil, String.append_empty]
          rfl

/-- The plain text of tokens is that of the tokens at the bottom, in order. -/
theorem plainTexts_eq (ts : List Token) : Token.plainText.plainTexts ts = altTextOf ts := by
  match ts with
  | [] => rfl
  | t :: ts =>
      rw [Token.plainText.plainTexts, altTextOf, bottomAll, List.map_append, String.join_append,
        plainText_eq t, plainTexts_eq ts, altTextOf]

end

theorem leaf_imageNode (target : Target) (children : List Token) :
    ∃ l, imageNode target children = .ofLeaf l ∧ l.text? = none ∧
      l.altText? = some (altTextOf children) := by
  rw [← plainTexts_eq]
  cases target with
  | url url title => exact ⟨_, rfl, rfl, rfl⟩
  | reference key label => exact ⟨_, rfl, rfl, rfl⟩

theorem leaf_codeNode (content : String) (info : Option String) :
    ∃ l m, codeNode content info = .leaf l m ∧ l.text? = none ∧ l.altText? = none := by
  unfold codeNode
  split
  · exact ⟨_, _, rfl, rfl, rfl⟩
  · exact ⟨_, _, rfl, rfl, rfl⟩

/-- Texts and images are among the leaves. -/
theorem bind_leafOf? (found : Role × Token) :
    (leafOf? found).bind Leaf.text? = textOf? found ∧
      (leafOf? found).bind Leaf.altText? = altOf? found := by
  obtain ⟨r, kind, raw, nested, children⟩ := found
  cases r with
  | inline =>
      cases kind with
      | image target =>
          obtain ⟨l, hl, htext, halt⟩ := leaf_imageNode target children
          simp only [leafOf?, hl]
          exact ⟨htext, halt⟩
      | _ => exact ⟨rfl, rfl⟩
  | block =>
      cases kind with
      | blockCode info =>
          obtain ⟨l, m, hl, htext, halt⟩ := leaf_codeNode raw info
          simp only [leafOf?, hl]
          exact ⟨htext, halt⟩
      | _ => exact ⟨rfl, rfl⟩
  | _ => exact ⟨rfl, rfl⟩

/-! ## Inlines -/

theorem inlineNodesAll_append (ts us : List Token) :
    inlineNodesAll (ts ++ us) = inlineNodesAll ts ++ inlineNodesAll us := by
  induction ts with
  | nil => rfl
  | cons t ts ih =>
      rw [List.cons_append, inlineNodesAll, inlineNodesAll, ih, List.append_assoc]

theorem length_inlineNodes (t : Token) :
    t.inlineNodes.length = if t.kind.isInline then 1 else 0 := by
  obtain ⟨kind, raw, nested, children⟩ := t
  cases kind <;> rfl

/-- Whether an order takes what is reached as it stands, apart from the parts of
tables. -/
def Order.IsPlain (order : Order) : Prop :=
  ∀ r found, r ≠ .part → order r found = found.flatMap Prod.snd

theorem isPlain_asWritten : asWritten.IsPlain := fun _ _ _ => rfl

theorem isPlain_asRead : asRead.IsPlain := by
  intro r found hr
  cases r with
  | part => exact absurd rfl hr
  | _ => rfl

section

variable {order : Order} {r below : Role} {kind : TokenKind} {raw : String} {nested : Bool}
  {t : Token} {ts children : List Token}

theorem reached_mk_of_some (h : r.below kind = some below) :
    (Token.mk kind raw nested children).reached order r =
      (r, .mk kind raw nested children) :: reachedAll order below children := by
  rw [Token.reached, h, reachedAll]

theorem reached_mk_of_none (h : r.below kind = none) :
    (Token.mk kind raw nested children).reached order r = [(r, .mk kind raw nested children)] := by
  rw [Token.reached, h]

theorem reachedEach_eq_map (order : Order) (r : Role) (ts : List Token) :
    reachedEach order r ts = ts.map fun t => (t.kind, t.reached order r) := by
  induction ts with
  | nil => rw [reachedEach, List.map_nil]
  | cons t ts ih => rw [reachedEach, List.map_cons, ih]

theorem reachedAll_nil (horder : order.IsPlain) (hr : r ≠ .part) :
    reachedAll order r [] = [] := by
  rw [reachedAll, horder r _ hr, reachedEach, List.flatMap_nil]

theorem filterMap_reachedAll_cons (horder : order.IsPlain) (hr : r ≠ .part) :
    (reachedAll order r (t :: ts)).filterMap leafOf? =
      (t.reached order r).filterMap leafOf? ++ (reachedAll order r ts).filterMap leafOf? := by
  rw [reachedAll, horder r _ hr, reachedEach, List.flatMap_cons, List.filterMap_append, reachedAll,
    horder r _ hr]

/-- A token that makes no leaf by itself holds what is reached below it. -/
theorem filterMap_reached (hleaf : leafOf? (r, .mk kind raw nested children) = none)
    (h : r.below kind = some below) :
    ((Token.mk kind raw nested children).reached order r).filterMap leafOf? =
      (reachedAll order below children).filterMap leafOf? := by
  rw [reached_mk_of_some h, List.filterMap_cons_none hleaf]

/-- A token that has nothing below it holds what it makes by itself. -/
theorem filterMap_reached_of_none (h : r.below kind = none) :
    ((Token.mk kind raw nested children).reached order r).filterMap leafOf? =
      (leafOf? (r, .mk kind raw nested children)).toList := by
  rw [reached_mk_of_none h]
  cases hleaf : leafOf? (r, .mk kind raw nested children) with
  | none => rw [List.filterMap_cons_none hleaf, List.filterMap_nil, Option.toList_none]
  | some l => rw [List.filterMap_cons_some hleaf, List.filterMap_nil, Option.toList_some]

mutual

theorem leaves_inlineNodes (horder : order.IsPlain) (t : Token) :
    leavesOf t.inlineNodes = (t.reached order .inline).filterMap leafOf? := by
  match t with
  | .mk kind raw nested children =>
      have hchildren := leaves_inlineNodesAll horder children
      cases kind with
      | strong | emphasis | strikethrough =>
          rw [filterMap_reached rfl rfl, ← hchildren]
          exact leavesOf_branch ..
      | link target =>
          rw [filterMap_reached rfl rfl, ← hchildren]
          cases target with
          | url => exact leavesOf_branch ..
          | reference => exact leavesOf_branch ..
      | image target =>
          obtain ⟨l, hl, -⟩ := leaf_imageNode target children
          rw [filterMap_reached_of_none rfl, leafOf?, Token.inlineNodes]
          simp only [hl]
          rfl
      | _ =>
          rw [filterMap_reached_of_none rfl]
          rfl

theorem leaves_inlineNodesAll (horder : order.IsPlain) (ts : List Token) :
    leavesOf (inlineNodesAll ts) = (reachedAll order .inline ts).filterMap leafOf? := by
  match ts with
  | [] =>
      rw [@reachedAll_nil order .inline horder nofun]
      rfl
  | t :: ts =>
      rw [inlineNodesAll, leavesOf_append, filterMap_reachedAll_cons (r := .inline) horder nofun,
        leaves_inlineNodes horder t, leaves_inlineNodesAll horder ts]

end

end

/-! ## Tables -/

theorem leaves_cellNodes (ts : List Token) :
    leavesOf (cellNodes ts) = (reachedAll asRead .cell ts).filterMap leafOf? := by
  induction ts with
  | nil => rfl
  | cons t ts ih =>
      rw [filterMap_reachedAll_cons (r := .cell) isPlain_asRead nofun, ← ih]
      obtain ⟨kind, raw, nested, children⟩ := t
      cases kind with
      | tableCell alignment =>
          rw [cellNodes, leavesOf_cons, leavesOf_branch, filterMap_reached rfl rfl,
            leaves_inlineNodesAll isPlain_asRead]
      | _ =>
          rw [filterMap_reached_of_none rfl]
          rfl

theorem leaves_rowNodes (ts : List Token) :
    leavesOf (rowNodes ts) = (reachedAll asRead .row ts).filterMap leafOf? := by
  induction ts with
  | nil => rfl
  | cons t ts ih =>
      obtain ⟨kind, raw, nested, children⟩ := t
      rw [filterMap_reachedAll_cons (r := .row) isPlain_asRead nofun, ← ih,
        filterMap_reached rfl rfl, rowNodes, List.map_cons, leavesOf_cons, leavesOf_branch,
        leaves_cellNodes]
      rfl

/-- A part of a table is a header, a body or nothing. -/
theorem leaves_body (part : Token) (h : part.kind ≠ .tableHead) :
    leavesOf (if part.kind == .tableBody then rowNodes part.children else []) =
      (part.reached asRead .part).filterMap leafOf? := by
  obtain ⟨kind, raw, nested, children⟩ := part
  cases kind with
  | tableHead => exact absurd rfl h
  | tableBody =>
      rw [filterMap_reached rfl rfl, ← leaves_rowNodes]
      rfl
  | _ =>
      rw [filterMap_reached_of_none rfl]
      rfl

theorem leaves_head {head : Token} (h : head.kind = .tableHead) :
    leavesOf (cellNodes head.children) = (head.reached asRead .part).filterMap leafOf? := by
  obtain ⟨kind, raw, nested, children⟩ := head
  cases h
  rw [filterMap_reached rfl rfl, ← leaves_cellNodes]
  rfl

theorem leaves_bodyNodes (parts : List Token) :
    leavesOf (bodyNodes parts) =
      (((reachedEach asRead .part parts).filter (·.1 != .tableHead)).flatMap
        Prod.snd).filterMap leafOf? := by
  induction parts with
  | nil => rfl
  | cons part parts ih =>
      rw [bodyNodes, List.flatMap_cons, leavesOf_append, reachedEach]
      rw [bodyNodes] at ih
      cases hkind : part.kind != .tableHead with
      | true =>
          rw [List.filter_cons, if_pos hkind, List.flatMap_cons, List.filterMap_append, ← ih,
            leaves_body part (bne_iff_ne.1 hkind)]
      | false =>
          have hbody : (part.kind == .tableBody) = false := by
            rw [bne_eq_false_iff_eq.1 hkind]
            rfl
          rw [hbody, if_neg Bool.false_ne_true, List.filter_cons]
          dsimp only
          rw [hkind, if_neg Bool.false_ne_true, ← ih]
          rfl

/-- The header that counts, as it is found among what is reached. -/
theorem getLast?_heads (parts : List Token) :
    ((reachedEach asRead .part parts).filter (·.1 == .tableHead)).getLast? =
      ((parts.filter fun t => t.kind == .tableHead).getLast?).map fun head =>
        (head.kind, head.reached asRead .part) := by
  rw [reachedEach_eq_map, List.filter_map, List.getLast?_map]
  rfl

theorem leaves_tableNode (parts : List Token) :
    leavesOf [tableNode parts] = (reachedAll asRead .part parts).filterMap leafOf? := by
  rw [tableNode, leavesOf_branch, leavesOf_append, leaves_bodyNodes, reachedAll, asRead,
    List.filterMap_append, getLast?_heads, headNode?]
  cases hlast : (parts.filter fun t => t.kind == .tableHead).getLast? with
  | none => rfl
  | some head =>
      have hkind : head.kind = .tableHead := by
        simpa using (List.mem_filter.1 (List.mem_of_getLast? hlast)).2
      rw [Option.map_some, Option.map_some, Option.map_some, Option.getD_some, Option.toList_some,
        leavesOf_branch, leaves_head hkind]

/-! ## Blocks -/

/-- The node of a footnote; a token that has no key is one without a name. -/
def noteNode (t : Token) : Node :=
  let key :=
    match t.kind with
    | .footnoteItem key => key
    | _ => ""
  .ofBranch (.footnoteDefinition (identifierOf key)) (blockNodesAll t.children)

theorem noteNodes_cons (t : Token) (ts : List Token) :
    noteNodes (t :: ts) = noteNode t :: noteNodes ts := by
  obtain ⟨kind, raw, nested, children⟩ := t
  cases kind <;> rfl

theorem noteNodes_eq_map (ts : List Token) : noteNodes ts = ts.map noteNode := by
  induction ts with
  | nil => rfl
  | cons t ts ih => rw [noteNodes_cons, List.map_cons, ih]

theorem length_blockNodes (t : Token) :
    t.blockNodes.length =
      if t.kind == .footnotes then t.children.length else if t.kind.isBlock then 1 else 0 := by
  obtain ⟨kind, raw, nested, children⟩ := t
  cases kind with
  | footnotes =>
      rw [Token.blockNodes, noteNodes_eq_map, List.length_map]
      rfl
  | _ => rfl

mutual

theorem leaves_blockNodes (t : Token) :
    leavesOf t.blockNodes = (t.reached asRead .block).filterMap leafOf? := by
  match t with
  | .mk kind raw nested children =>
      have hinlines := @leaves_inlineNodesAll asRead isPlain_asRead children
      have hblocks := leaves_blockNodesAll children
      cases kind with
      | heading | paragraph | blockText | leafDirective =>
          rw [filterMap_reached rfl rfl, ← hinlines]
          exact leavesOf_branch ..
      | blockQuote | containerDirective =>
          rw [filterMap_reached rfl rfl, ← hblocks]
          exact leavesOf_branch ..
      | list =>
          rw [filterMap_reached rfl rfl, ← leaves_itemNodes children]
          exact leavesOf_branch ..
      | footnotes =>
          rw [filterMap_reached rfl rfl, ← leaves_noteNodes children]
          rfl
      | table =>
          rw [filterMap_reached rfl rfl, ← leaves_tableNode]
          rfl
      | blockCode info =>
          obtain ⟨l, m, hl, -⟩ := leaf_codeNode raw info
          rw [filterMap_reached_of_none rfl, leafOf?, Token.blockNodes]
          simp only [hl]
          rfl
      | _ =>
          rw [filterMap_reached_of_none rfl]
          rfl

/-- What the leaves of blocks hold is what the tokens hold that are reached. -/
theorem leaves_blockNodesAll (ts : List Token) :
    leavesOf (blockNodesAll ts) = (reachedAll asRead .block ts).filterMap leafOf? := by
  match ts with
  | [] => rfl
  | t :: ts =>
      rw [blockNodesAll, leavesOf_append,
        filterMap_reachedAll_cons (r := .block) isPlain_asRead nofun, leaves_blockNodes t,
        leaves_blockNodesAll ts]

theorem leaves_itemNodes (ts : List Token) :
    leavesOf (itemNodes ts) = (reachedAll asRead .item ts).filterMap leafOf? := by
  match ts with
  | [] => rfl
  | .mk kind raw nested children :: ts =>
      rw [filterMap_reachedAll_cons (r := .item) isPlain_asRead nofun, ← leaves_itemNodes ts]
      cases kind with
      | listItem =>
          rw [itemNodes, if_pos (beq_self_eq_true _), leavesOf_cons, leavesOf_branch,
            filterMap_reached rfl rfl, leaves_blockNodesAll children]
      | _ =>
          rw [filterMap_reached_of_none rfl]
          rfl

theorem leaves_noteNodes (ts : List Token) :
    leavesOf (noteNodes ts) = (reachedAll asRead .note ts).filterMap leafOf? := by
  match ts with
  | [] => rfl
  | .mk kind raw nested children :: ts =>
      rw [filterMap_reachedAll_cons (r := .note) isPlain_asRead nofun, ← leaves_noteNodes ts,
        noteNodes_cons, noteNode, leavesOf_cons, leavesOf_branch, filterMap_reached rfl rfl,
        Token.children, leaves_blockNodesAll children]

end

/-! ## Tables in order -/

/-- Whether a header among the parts of a table is the first of them. -/
def Role.isInOrder : Role → List Token → Bool
  | .part, parts => parts.tail.all fun part => part.kind != .tableHead
  | _, _ => true

mutual

/-- Whether the tables that are reached from a token have their headers at the
front, if they have any. -/
def Token.isInOrder (r : Role) : Token → Bool
  | .mk kind _ _ children =>
    match r.below kind with
    | some below => below.isInOrder children && allInOrder below children
    | none => true

/-- Whether the tables that are reached from several tokens do. -/
def allInOrder (r : Role) : List Token → Bool
  | [] => true
  | t :: ts => t.isInOrder r && allInOrder r ts

end

theorem asRead_eq_asWritten {r : Role} {ts : List Token} (h : r.isInOrder ts = true)
    (order : Order) : asRead r (reachedEach order r ts) = asWritten r (reachedEach order r ts) := by
  cases r with
  | part =>
      cases ts with
      | nil => rfl
      | cons part parts =>
          have hrest : ∀ found ∈ reachedEach order .part parts, (found.1 != .tableHead) = true := by
            rw [reachedEach_eq_map, List.forall_mem_map]
            exact fun t ht => List.all_eq_true.1 h t ht
          have hnone : (reachedEach order .part parts).filter (·.1 == .tableHead) = [] := by
            refine List.filter_eq_nil_iff.2 fun found hfound hhead => ?_
            have hne := hrest found hfound
            rw [bne, hhead] at hne
            cases hne
          have hall : (reachedEach order .part parts).filter (·.1 != .tableHead) =
              reachedEach order .part parts := List.filter_eq_self.2 hrest
          rw [asRead, asWritten, reachedEach, List.filter_cons, List.filter_cons, hnone, hall]
          cases hkind : part.kind == .tableHead with
          | true => simp [bne, hkind]
          | false => simp [bne, hkind]
  | _ => rfl

mutual

theorem reached_asRead {r : Role} {t : Token} (h : t.isInOrder r = true) :
    t.reached asRead r = t.reached asWritten r := by
  match t with
  | .mk kind raw nested children =>
      rw [Token.isInOrder] at h
      rw [Token.reached, Token.reached]
      cases hbelow : r.below kind with
      | none => rfl
      | some below =>
          rw [hbelow] at h
          obtain ⟨hparts, hchildren⟩ := Bool.and_eq_true_iff.1 h
          dsimp only
          rw [reachedEach_asRead hchildren, asRead_eq_asWritten hparts]

/-- Where every header is at the front of its table, tokens are read in the order
in which they are written. -/
theorem reachedEach_asRead {r : Role} {ts : List Token} (h : allInOrder r ts = true) :
    reachedEach asRead r ts = reachedEach asWritten r ts := by
  match ts with
  | [] => rfl
  | t :: ts =>
      rw [allInOrder, Bool.and_eq_true] at h
      rw [reachedEach, reachedEach, reached_asRead h.1, reachedEach_asRead h.2]

end

/-! ## Texts and images -/

/-- The contents of the texts of several trees, in document order. -/
def textsOf (ns : List Node) : List String := (leavesOf ns).filterMap Leaf.text?

/-- The alternative texts of the images of several trees, in document order. -/
def altTextsOf (ns : List Node) : List String := (leavesOf ns).filterMap Leaf.altText?

theorem texts_of_leaves {ns : List Node} {found : List (Role × Token)}
    (h : leavesOf ns = found.filterMap leafOf?) :
    textsOf ns = found.filterMap textOf? ∧ altTextsOf ns = found.filterMap altOf? := by
  have htext := funext fun found => (bind_leafOf? found).1
  have halt := funext fun found => (bind_leafOf? found).2
  rw [textsOf, altTextsOf, h, List.filterMap_filterMap, List.filterMap_filterMap, htext, halt]
  exact ⟨rfl, rfl⟩

theorem inlineNodesAll_of_unknown {t : Token} (h : t.kind.isInline = false) (ts us : List Token) :
    inlineNodesAll (ts ++ t :: us) = inlineNodesAll (ts ++ us) := by
  have hlength := length_inlineNodes t
  rw [h, if_neg Bool.false_ne_true, List.length_eq_zero_iff] at hlength
  rw [inlineNodesAll_append, inlineNodesAll_append, inlineNodesAll, hlength, List.nil_append]

theorem blockNodesAll_of_unknown {t : Token} (h : t.kind.isBlock = false) (ts us : List Token) :
    blockNodesAll (ts ++ t :: us) = blockNodesAll (ts ++ us) := by
  have hnotes : (t.kind == .footnotes) = false := by
    cases hkind : t.kind with
    | footnotes =>
        rw [hkind] at h
        cases h
    | _ => rfl
  have hlength := length_blockNodes t
  rw [hnotes, h, if_neg Bool.false_ne_true, if_neg Bool.false_ne_true, List.length_eq_zero_iff]
    at hlength
  rw [blockNodesAll_append, blockNodesAll_append, blockNodesAll, hlength, List.nil_append]

/-- Tokens are turned into nodes one by one: a token that is not known where it
stands adds nothing, footnotes add a node for each of them, and any other token
adds one. The leaves of these nodes hold what the tokens hold that are reached,
in order; so do the texts among them, and an image has the text of the tokens at
the bottom of it. The order is the one in which the tokens are written, unless a
table has a header behind one of its other parts: it is then the last header
that is read, and it is read first. -/
theorem conversion_keeps_content :
    (∀ ts us, inlineNodesAll (ts ++ us) = inlineNodesAll ts ++ inlineNodesAll us) ∧
    (∀ ts us, blockNodesAll (ts ++ us) = blockNodesAll ts ++ blockNodesAll us) ∧
    (∀ t : Token, t.inlineNodes.length = if t.kind.isInline then 1 else 0) ∧
    (∀ t : Token, t.blockNodes.length =
      if t.kind == .footnotes then t.children.length else if t.kind.isBlock then 1 else 0) ∧
    (∀ raw nested items,
      (Token.mk .footnotes raw nested items).blockNodes = items.map noteNode) ∧
    (∀ target raw nested children, ∃ l,
      (Token.mk (.image target) raw nested children).inlineNodes = [.ofLeaf l] ∧
        l.altText? = some (altTextOf children)) ∧
    (∀ (t : Token) (ts us : List Token),
      (t.kind.isInline = false → inlineNodesAll (ts ++ t :: us) = inlineNodesAll (ts ++ us)) ∧
      (t.kind.isBlock = false → blockNodesAll (ts ++ t :: us) = blockNodesAll (ts ++ us))) ∧
    (∀ ts, leavesOf (inlineNodesAll ts) = (reachedAll asWritten .inline ts).filterMap leafOf? ∧
      textsOf (inlineNodesAll ts) = (reachedAll asWritten .inline ts).filterMap textOf? ∧
      altTextsOf (inlineNodesAll ts) = (reachedAll asWritten .inline ts).filterMap altOf?) ∧
    (∀ ts, leavesOf (blockNodesAll ts) = (reachedAll asRead .block ts).filterMap leafOf? ∧
      textsOf (blockNodesAll ts) = (reachedAll asRead .block ts).filterMap textOf? ∧
      altTextsOf (blockNodesAll ts) = (reachedAll asRead .block ts).filterMap altOf?) ∧
    (∀ ts, allInOrder .block ts = true →
      reachedAll asRead .block ts = reachedAll asWritten .block ts) := by
  refine ⟨inlineNodesAll_append, blockNodesAll_append, length_inlineNodes, length_blockNodes,
    fun raw nested items => ?_, fun target raw nested children => ?_, fun t ts us =>
      ⟨fun h => inlineNodesAll_of_unknown h ts us, fun h => blockNodesAll_of_unknown h ts us⟩,
    fun ts => ?_, fun ts => ?_, fun ts h => ?_⟩
  · rw [Token.blockNodes, noteNodes_eq_map]
  · obtain ⟨l, hl, -, halt⟩ := leaf_imageNode target children
    exact ⟨l, by rw [Token.inlineNodes, hl], halt⟩
  · have hleaves := leaves_inlineNodesAll isPlain_asWritten ts
    exact ⟨hleaves, texts_of_leaves hleaves⟩
  · exact ⟨leaves_blockNodesAll ts, texts_of_leaves (leaves_blockNodesAll ts)⟩
  · rw [reachedAll, reachedAll, reachedEach_asRead h]
    rfl

/-- A header with one cell. -/
def headerOf (text : String) : Token :=
  .branch .tableHead [.branch (.tableCell none) [.flat .text text]]

/-- Of two headers the first is lost. -/
theorem first_header_is_lost :
    textsOf (blockNodesAll [.branch .table [headerOf "a", headerOf "b"]]) = ["b"] ∧
      (reachedAll asWritten .block [.branch .table [headerOf "a", headerOf "b"]]).filterMap
        textOf? = ["a", "b"] := by
  decide

end Markdown

end TypstPress
