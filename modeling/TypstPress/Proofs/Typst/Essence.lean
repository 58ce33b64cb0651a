import TypstPress.Proofs.Document.Essence

/-!
# A tree is set as its essence

The compiler looks at the fields that an essence keeps and at no others. Every
node has the fragments of its essence, also where they are defects, so nothing is
asked of the tree; only the labels that the essence leaves out must not be those
of references without a definition (`fragments_essence`). The footnotes that are
collected from an essence are the essences of those of the tree, and therefore
the whole document compiles as its essence does, with the same records
(`compile_essence`).
-/

namespace TypstPress.Typst

open Node

variable {known : String → Bool} {s s' : Setting}

/-- Two settings that resolve references alike, and in which the known
identifiers have a definition. -/
structure Setting.Resolves (known : String → Bool) (s s' : Setting) : Prop where
  agrees : s.Agrees s'
  url : ∀ identifier, s.definitions.url? identifier = s'.definitions.url? identifier
  known : ∀ identifier, known identifier = true →
    (s.definitions.url? identifier).isSome = true

/-! ## Nodes by themselves -/

theorem imageArguments_congr {attributes attributes' : Attributes} (url : String)
    {names : List String}
    (h : ∀ name ∈ names, attributes.value? name = attributes'.value? name) :
    imageArguments url attributes names = imageArguments url attributes' names := by
  induction names with
  | nil => rfl
  | cons name names ih =>
      rw [List.forall_mem_cons] at h
      rw [imageArguments, imageArguments, h.1, ih h.2]

theorem image_restricted (s : Setting) (url : Url) (altText : String) (attributes : Attributes) :
    image s url altText (attributes.restricted s.options.imageAttributes) =
      image s url altText attributes := by
  cases url with
  | text url =>
      show encodedImage s url _ _ = encodedImage s url _ _
      rw [encodedImage, encodedImage, imageArguments_congr url fun _ hname =>
        Attributes.value?_restricted hname attributes]
  | illFormed t => rfl

theorem figureOpening_restricted (attributes : Attributes) :
    figureOpening (attributes.restricted ["caption"]) = figureOpening attributes := by
  rw [figureOpening, figureOpening, Attributes.value?_restricted List.mem_cons_self]

namespace Setting.Resolves

variable (h : Setting.Resolves known s s')

include h

/-- A label that is left out is not the one of a reference without a definition. -/
theorem label_of_none {identifier : String} (hnone : s.definitions.url? identifier = none)
    (label : Option String) : (if known identifier then none else label) = label := by
  cases hknown : known identifier with
  | false => rfl
  | true =>
      have hsome := h.known identifier hknown
      rw [hnone] at hsome
      cases hsome

theorem leafFragments (l : Leaf) :
    leafFragments s' (l.essence s.options.imageAttributes known) = leafFragments s l := by
  cases l with
  | image url altText title attributes =>
      rw [Leaf.essence, Typst.leafFragments, Typst.leafFragments, ← h.agrees.image,
        image_restricted]
  | imageReference identifier label form altText attributes =>
      rw [Leaf.essence, Typst.leafFragments, Typst.leafFragments, ← h.url]
      cases hurl : s.definitions.url? identifier with
      | some url => exact (h.agrees.image ..).symm.trans (image_restricted s url altText attributes)
      | none => simp only [h.label_of_none hurl]
  | _ => exact (h.agrees.leafFragments rfl).symm

theorem opening (k : Branch) : opening s' (k.essence known) = opening s k := by
  cases k with
  | containerDirective name attributes =>
      rw [Branch.essence, Typst.opening, Typst.opening]
      by_cases hname : (name == "figure") = true
      · simp only [if_pos hname, figureOpening_restricted]
      · simp only [if_neg hname]
  | linkReference identifier label form =>
      rw [Branch.essence, Typst.opening, Typst.opening, ← h.url]
  | _ => rfl

theorem closing (k : Branch) : closing s' (k.essence known) = closing s k := by
  cases k with
  | linkReference identifier label form =>
      rw [Branch.essence, Typst.closing, Typst.closing, ← h.url]
      cases hurl : s.definitions.url? identifier with
      | some url => rfl
      | none => simp only [h.label_of_none hurl]
  | _ => rfl

end Setting.Resolves

theorem tableColumns_essences (names : List String) (known : String → Bool)
    (alignments : List (Option String)) (rows : List Node) :
    tableColumns alignments (essences names known rows) = tableColumns alignments rows := by
  cases alignments with
  | cons alignment alignments => cases rows <;> rfl
  | nil =>
      cases rows with
      | nil => rw [essences]
      | cons row rows =>
          rw [essences]
          cases row with
          | leaf l m => rw [essence_leaf]; cases l <;> rfl
          | branch k cs m =>
              rw [essence_branch]
              cases k with
              | tableRow isHeader =>
                  rw [Branch.essence, tableColumns, tableColumns, essences_eq_map, List.map_map]
                  rfl
              | _ => rfl

/-! ## Trees -/

mutual

/-- A tree has the fragments of its essence. -/
theorem fragments_essence (h : Setting.Resolves known s s') (n : Node) :
    fragments s' (n.essence s.options.imageAttributes known) = fragments s n := by
  match n with
  | .leaf l m => rw [essence_leaf, fragments, fragments, h.leafFragments]
  | .branch k cs m =>
      have hlayout := k.layout_essence known
      by_cases hframed : k.layout.isFramed = true
      · have hinner : inner s' k.layout (essences s.options.imageAttributes known cs) =
            inner s k.layout cs := by
          unfold inner
          split
          · exact itemFragments_essences h cs
          · exact unwrappedFragments_essences h cs
          · exact fragmentsAll_essences h cs
        rw [essence_branch, fragments_framed s hframed, fragments_framed s' (hlayout ▸ hframed),
          h.opening, h.closing, hlayout, hinner]
      · have hall := fragmentsAll_essences h cs
        have hrows := fun columns => rowFragments_essences h columns cs
        rw [essence_branch]
        cases k with
        | document => rw [Branch.essence, fragments, fragments, hall] <;> nofun
        | table headed alignments =>
            cases cs with
            | nil => rw [essences, Branch.essence, fragments, fragments] <;> nofun
            | cons row rows =>
                have hcolumns :=
                  tableColumns_essences s.options.imageAttributes known alignments (row :: rows)
                rw [essences] at hrows hcolumns ⊢
                rw [Branch.essence, fragments, fragments, hcolumns]
                · simp only [hrows]
                all_goals nofun
        | tableRow isHeader => rw [Branch.essence, fragments, fragments]
        | footnoteDefinition identifier =>
            rw [Branch.essence, fragments, fragments] <;> nofun
        | _ => exact absurd rfl hframed
termination_by sizeOf n

theorem fragmentsAll_essences (h : Setting.Resolves known s s') (ns : List Node) :
    fragmentsAll s' (essences s.options.imageAttributes known ns) = fragmentsAll s ns := by
  match ns with
  | [] => rw [essences, fragmentsAll, fragmentsAll]
  | n :: ns =>
      rw [essences, fragmentsAll, fragmentsAll, fragments_essence h n, fragmentsAll_essences h ns]
termination_by sizeOf ns

theorem itemFragments_essences (h : Setting.Resolves known s s') (ns : List Node) :
    itemFragments s' (essences s.options.imageAttributes known ns) = itemFragments s ns := by
  match ns with
  | [] => rw [essences, itemFragments, itemFragments]
  | n :: ns =>
      rw [essences, itemFragments, itemFragments, fragments_essence h n, itemFragments_essences h ns]
termination_by sizeOf ns

theorem unwrappedFragments_essences (h : Setting.Resolves known s s') (ns : List Node) :
    unwrappedFragments s' (essences s.options.imageAttributes known ns) =
      unwrappedFragments s ns := by
  match ns with
  | [] => rw [essences, unwrappedFragments, unwrappedFragments]
  | .leaf l m :: ns =>
      have hleaf := fragments_essence h (.leaf l m)
      rw [essence_leaf] at hleaf
      rw [essences, essence_leaf, unwrappedFragments_cons s' fun _ _ => Node.noConfusion,
        unwrappedFragments_cons s fun _ _ => Node.noConfusion, hleaf,
        unwrappedFragments_essences h ns]
  | .branch k cs m :: ns =>
      have hlayout := k.layout_essence known
      have hwhole := fragments_essence h (.branch k cs m)
      have hall := fragmentsAll_essences h cs
      have hrest := unwrappedFragments_essences h ns
      rw [essence_branch] at hwhole
      rw [essences, essence_branch]
      by_cases hk : k.layout = .paragraph
      · obtain rfl := layout_eq_paragraph hk
        rw [Branch.essence, unwrappedFragments, unwrappedFragments, hall, hrest] <;> nofun
      · rw [unwrappedFragments_cons s' (branch_ne_paragraph (hlayout ▸ hk)),
          unwrappedFragments_cons s (branch_ne_paragraph hk), hwhole, hrest]
termination_by sizeOf ns

theorem rowFragments_essences (h : Setting.Resolves known s s') (columns : Nat) (rows : List Node) :
    rowFragments s' columns (essences s.options.imageAttributes known rows) =
      rowFragments s columns rows := by
  match rows with
  | [] => rw [essences, rowFragments, rowFragments]
  | .leaf l m :: rows =>
      have hname := kindName_essence s.options.imageAttributes known (.leaf l m)
      rw [essence_leaf] at hname
      rw [essences, essence_leaf, rowFragments_cons s' _ fun _ _ _ => Node.noConfusion,
        rowFragments_cons s _ fun _ _ _ => Node.noConfusion, hname,
        rowFragments_essences h columns rows]
  | .branch k cells m :: rows =>
      have hlayout := k.layout_essence known
      have hcells := cellFragments_essences h columns cells
      have hrest := rowFragments_essences h columns rows
      have hname := kindName_essence s.options.imageAttributes known (.branch k cells m)
      rw [essence_branch] at hname
      rw [essences, essence_branch]
      by_cases hk : k.layout = .row
      · obtain ⟨isHeader, rfl⟩ := layout_eq_row hk
        rw [Branch.essence, rowFragments, rowFragments, hcells, hrest]
      · rw [rowFragments_cons s' _ (branch_ne_row (hlayout ▸ hk)),
          rowFragments_cons s _ (branch_ne_row hk), hname, hrest]
termination_by sizeOf rows

theorem cellFragments_essences (h : Setting.Resolves known s s') (columns : Nat) (cells : List Node) :
    cellFragments s' columns (essences s.options.imageAttributes known cells) =
      cellFragments s columns cells := by
  match columns, cells with
  | 0, cells => rw [cellFragments, cellFragments]
  | columns + 1, [] => rw [essences, cellFragments, cellFragments]
  | columns + 1, .leaf l m :: cells =>
      have hname := kindName_essence s.options.imageAttributes known (.leaf l m)
      rw [essence_leaf] at hname
      rw [essences, essence_leaf, cellFragments_cons s' _ fun _ _ _ _ _ _ => Node.noConfusion,
        cellFragments_cons s _ fun _ _ _ _ _ _ => Node.noConfusion, hname]
  | columns + 1, .branch k cs m :: cells =>
      have hlayout := k.layout_essence known
      have hall := fragmentsAll_essences h cs
      have hrest := cellFragments_essences h columns cells
      have hname := kindName_essence s.options.imageAttributes known (.branch k cs m)
      rw [essence_branch] at hname
      rw [essences, essence_branch]
      by_cases hk : ∃ colspan rowspan suppressed, k.layout = .cell colspan rowspan suppressed
      · obtain ⟨colspan, rowspan, suppressed, hcell⟩ := hk
        obtain ⟨alignment, rfl⟩ := layout_eq_cell hcell
        rw [Branch.essence, cellFragments, cellFragments, hall, hrest]
      · have hne : ∀ colspan rowspan suppressed, k.layout ≠ .cell colspan rowspan suppressed :=
          fun colspan rowspan suppressed heq => hk ⟨colspan, rowspan, suppressed, heq⟩
        rw [cellFragments_cons s' _ (branch_ne_cell (hlayout ▸ hne)),
          cellFragments_cons s _ (branch_ne_cell hne), hname]
termination_by sizeOf cells

end

/-! ## Documents -/

theorem bodyFragments_essences (h : Setting.Resolves known s s') (identifier : String)
    (content : List Node) :
    bodyFragments s' identifier (essences s.options.imageAttributes known content) =
      bodyFragments s identifier content := by
  rw [bodyFragments, bodyFragments, fragmentsAll_essences h, h.agrees.noteLabel]

theorem runBodies_essences (h : Setting.Resolves known s s') (bodies : List String → Outcome)
    (cited : List String) (notes : List (String × List Node)) :
    runBodies s' bodies cited (notes.map fun note =>
        (note.1, essences s.options.imageAttributes known note.2)) =
      runBodies s bodies cited notes := by
  induction notes generalizing cited with
  | nil => rfl
  | cons note notes ih =>
      rw [List.map_cons, runBodies, runBodies, bodyFragments_essences h]
      split
      · exact followedBy_congr fun _ => ih _
      · exact ih cited

theorem noteBodies_essences (h : Setting.Resolves known s s')
    (hnotes : s'.definitions.notes = s.definitions.notes.map fun note =>
      (note.1, essences s.options.imageAttributes known note.2)) (levels : Nat) :
    noteBodies s' levels = noteBodies s levels := by
  induction levels with
  | zero => rfl
  | succ levels ih =>
      funext cited
      rw [noteBodies, noteBodies, hnotes, ih, runBodies_essences h]

/-- A document compiles as its essence does. -/
theorem compile_essence (options : TypstOptions) {document : Node}
    (hknown : ∀ identifier, known identifier = true →
      (document.firstUrl? identifier).isSome = true) :
    compile options (document.essence options.imageAttributes known) =
      compile options document := by
  have hcollect := Definitions.collect_essence options.imageAttributes known document
  have h : Setting.Resolves known (settingOf options document)
      (settingOf options (document.essence options.imageAttributes known)) :=
    { agrees := ⟨rfl, fun identifier => by
        rw [settingOf, settingOf, hcollect, Definitions.hasNote_essence]⟩
      url := fun identifier => by rw [settingOf, settingOf, hcollect]; rfl
      known := fun identifier hidentifier => by
        rw [settingOf, Definitions.url?_collect]
        exact hknown identifier hidentifier }
  have hnotes : (settingOf options (document.essence options.imageAttributes known)).definitions.notes
      = (settingOf options document).definitions.notes.map fun note =>
        (note.1, essences options.imageAttributes known note.2) := by
    rw [settingOf, hcollect]
    rfl
  have hrun : runTree (settingOf options (document.essence options.imageAttributes known))
      (document.essence options.imageAttributes known) =
        runTree (settingOf options document) document := by
    rw [runTree, runTree, noteBodies_essences h hnotes, hnotes, List.length_map]
    exact congrArg _ (fragments_essence h document)
  have hrecord : (Definitions.collect (document.essence options.imageAttributes known)).record =
      (Definitions.collect document).record := by
    rw [hcollect, Definitions.record, Definitions.record, Definitions.essence, List.length_map]
  rw [settingOf, settingOf] at hrun
  rw [compile, compile, isDocument_essence, kindName_essence]
  simp only [hrun, hrecord]

end TypstPress.Typst
