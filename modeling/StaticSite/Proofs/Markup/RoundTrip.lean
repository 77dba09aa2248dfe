/-
StaticSite.Proofs.Markup.RoundTrip — trees read back from their markup.

Reading the markup of a tree gives exactly its normal form. The proof
follows the reader through the markup of a node from any state inside a
text. The invariant is about the pieces in front of what is still to come:
before and after the node they make up the same list, if the pieces of the
node are put in between (`ReadsAs`). A text in progress is one of these
pieces (`readSoFar`), as it may run on into the next text.
-/
import StaticSite.Proofs.Markup.Evaluation
import StaticSite.Proofs.Markup.ReadTag

namespace StaticSite.Markup

/-! ## 1. Texts in front of pieces -/

theorem addText_empty (pieces : List Piece) : addText "" pieces = pieces := by
  rcases pieces with _ | ⟨_ | _ | _, rest⟩ <;> simp [addText]

theorem addText_append (a b : String) (pieces : List Piece) :
    addText (a ++ b) pieces = addText a (addText b pieces) := by
  rcases pieces with _ | ⟨_ | _ | _, rest⟩ <;> by_cases hb : b = "" <;>
    simp [addText, hb, String.append_assoc]

/-- The pieces that are read, with a text in progress, in front of what is still to come. -/
def readSoFar (done : List Piece) (read : List Char) (after : List Piece) : List Piece :=
  done.reverse ++ addText (readText read) after

theorem readSoFar_text (done : List Piece) (read s : List Char) (after : List Piece) :
    readSoFar done (s.reverse ++ read) after =
      readSoFar done read (addText (String.ofList s) after) := by
  have htext : readText (s.reverse ++ read) = readText read ++ String.ofList s := by
    simp [readText, String.ofList_append]
  rw [readSoFar, readSoFar, htext, addText_append]

theorem readText_isEmpty {read : List Char} : (readText read).isEmpty = read.isEmpty := by
  cases read <;> simp [readText]

/-- At the end of a text nothing is to come that it could be merged with. -/
theorem readSoFar_nil (done : List Piece) (read : List Char) :
    readSoFar done read [] = (endText done read).reverse := by
  rw [readSoFar, endText, addText, readText_isEmpty]
  · split <;> simp
  · simp

/-- An element ends the text before it. -/
theorem readSoFar_element {done : List Piece} {read : List Char} {piece : Piece}
    (h : ∀ s, piece ≠ .text s) (after : List Piece) :
    readSoFar (piece :: endText done read) [] after = readSoFar done read (piece :: after) := by
  have hempty : readText [] = "" := rfl
  have hpiece : addText (readText read) (piece :: after) =
      addText (readText read) [] ++ piece :: after := by
    cases piece with
    | text s => exact absurd rfl (h s)
    | empty tag attributes => simp only [addText]; split <;> rfl
    | paired tag attributes body => simp only [addText]; split <;> rfl
  have hend := readSoFar_nil done read
  rw [readSoFar] at hend
  rw [readSoFar, readSoFar, hempty, addText_empty, hpiece, ← List.append_assoc, hend]
  simp

/-! ## 2. The reader in a tree -/

/-- Reading the markup, from any state inside a text, leads to a state inside a text. In between
the function has put its pieces in front of what is still to come. -/
def ReadsAs (html : String) (piecesOnto : List Piece → List Piece) : Prop :=
  ∀ opened done read, ∃ done' read',
    (Reader.mk opened done (.text read)).run html.toList =
        some ⟨opened, done', .text read'⟩ ∧
      ∀ after, readSoFar done' read' after = readSoFar done read (piecesOnto after)

theorem readsAs_empty : ReadsAs "" id :=
  fun _ done read => ⟨done, read, rfl, fun _ => rfl⟩

theorem ReadsAs.append {a b : String} {f g : List Piece → List Piece} (ha : ReadsAs a f)
    (hb : ReadsAs b g) : ReadsAs (a ++ b) (f ∘ g) := by
  intro opened done read
  obtain ⟨done₁, read₁, hrun₁, hpieces₁⟩ := ha opened done read
  obtain ⟨done₂, read₂, hrun₂, hpieces₂⟩ := hb opened done₁ read₁
  refine ⟨done₂, read₂, ?_, fun after => ?_⟩
  · rw [String.toList_append]
    exact Reader.run_trans hrun₁ hrun₂
  · rw [hpieces₂, hpieces₁, Function.comp_apply]

/-- A text that starts no tag is only collected. -/
theorem readsAs_text {s : String} (h : s.toList.contains '<' = false) :
    ReadsAs s (addText s) := by
  intro opened done read
  have hplain : ∀ c ∈ s.toList, c ≠ '<' := by
    rintro c hc rfl
    simp [hc] at h
  have hcollect := Reader.run_text opened done hplain read
  refine ⟨done, s.toList.reverse ++ read, hcollect, fun after => ?_⟩
  rw [readSoFar_text, String.ofList_toList]

/-- What the whole of some markup is read as. -/
theorem ReadsAs.readMarkup {html : String} {f : List Piece → List Piece} (h : ReadsAs html f) :
    readMarkup html = some (f []) := by
  obtain ⟨done, read, hrun, hpieces⟩ := h [] [] []
  have hstart : readSoFar [] [] (f []) = f [] := addText_empty (f [])
  have hfinish : Reader.finish ⟨[], done, .text read⟩ = some (endText done read).reverse := rfl
  rw [Markup.readMarkup, hrun, Option.bind_some, hfinish, ← readSoFar_nil, hpieces, hstart]

theorem readsAs_emptyElement {opening : Opening} {kept : List ReadAttribute}
    (htag : isName opening.tag = true) (hkept : ReadsAttributes opening.attributes kept) :
    ReadsAs (renderElement opening none) (.empty opening.tag kept :: ·) := by
  intro opened done read
  refine ⟨.empty opening.tag kept :: endText done read, [],
    Reader.run_selfClosing opened done read htag hkept, fun after => ?_⟩
  exact readSoFar_element (fun s h => by cases h) after

/-- The pieces of the body of an element stay inside it. -/
theorem ReadsAs.element {body : String} {opening : Opening} {kept : List ReadAttribute}
    {f : List Piece → List Piece} (hbody : ReadsAs body f) (htag : isName opening.tag = true)
    (hkept : ReadsAttributes opening.attributes kept) :
    ReadsAs (renderElement opening (some body)) (.paired opening.tag kept (f []) :: ·) := by
  intro opened done read
  obtain ⟨inside, last, hrun, hpieces⟩ :=
    hbody (⟨opening.tag, kept, endText done read⟩ :: opened) [] []
  have hinside : (endText inside last).reverse = f [] := by
    rw [← readSoFar_nil, hpieces]
    exact addText_empty (f [])
  refine ⟨.paired opening.tag kept (f []) :: endText done read, [], ?_,
    fun after => readSoFar_element (fun s h => by cases h) after⟩
  have htext : renderElement opening (some body) =
      "<" ++ opening.tag ++ opening.attributes ++ ">" ++ body ++ ("</" ++ opening.tag ++ ">") := by
    simp only [renderElement, String.append_assoc]
  rw [htext, String.toList_append, String.toList_append]
  refine Reader.run_trans (Reader.run_trans
    (Reader.run_opening opened done read htag hkept) hrun) ?_
  rw [Reader.run_closing opened inside _ last htag, hinside]

/-! ## 3. The round trip -/

theorem TagRef.resolve_of_isReadable {tag : TagRef} (h : tag.isReadable = true) :
    tag.resolve = .ok tag.name ∧ isName tag.name = true := by
  cases tag with
  | tag name => exact ⟨rfl, h⟩
  | shorthand name =>
    have hcatalog : ∀ known ∈ tagCatalog, isName known = true := by decide
    simp only [isReadable] at h
    refine ⟨?_, hcatalog name (List.contains_iff_mem.mp h)⟩
    simp only [resolve, shorthand?, h, if_true, TagRef.name]

/-- An element that can be read back can be written, and its attributes are read as they are
kept. -/
theorem TagRef.exists_opening {tag : TagRef} {given : GivenAttributes}
    (htag : tag.isReadable = true) (hgiven : given.isReadable = true) :
    isName tag.name = true ∧ ∃ written, tag.opening given = .ok ⟨tag.name, written⟩ ∧
      ReadsAttributes written given.kept := by
  obtain ⟨hresolve, hname⟩ := resolve_of_isReadable htag
  simp only [GivenAttributes.isReadable, Bool.and_eq_true, List.all_eq_true] at hgiven
  obtain ⟨written, hwritten⟩ := GivenAttributes.exists_render_iff.mpr hgiven.1
  refine ⟨hname, written, opening_eq_ok_iff.mpr ⟨hresolve, hwritten⟩, ?_⟩
  rw [GivenAttributes.kept, ← keptAttributes_append]
  exact readsAttributes_renderAttributes hgiven.2
    (GivenAttributes.render_eq_ok_iff.mp hwritten).2

mutual

/-- What a tree gives is read as the pieces of the tree. -/
theorem Node.gives_readsAs : ∀ node : Node, node.isReadable = true →
    ∃ html calls, node.Gives html calls ∧ ReadsAs html node.piecesOnto
  | .text s, h => by
    rw [Node.isReadable, Bool.not_eq_true'] at h
    rw [Node.piecesOnto]
    exact ⟨s, [], .text s, readsAs_text h⟩
  | .group nodes, h => by
    rw [Node.isReadable] at h
    obtain ⟨html, calls, hgive, hreads⟩ := giveAll_readsAs 0 nodes h
    rw [Node.piecesOnto]
    exact ⟨html, calls, .group hgive, hreads⟩
  | .element tag (some content) deferred attributes, h => by
    simp only [Node.isReadable, Bool.and_eq_true] at h
    obtain ⟨⟨htag, hgiven⟩, hcontent⟩ := h
    obtain ⟨hname, written, hopening, hkept⟩ := TagRef.exists_opening htag hgiven
    obtain ⟨body, calls, hbody, hreads⟩ := Node.gives_readsAs content hcontent
    rw [Node.piecesOnto]
    exact ⟨_, _, hbody.given hopening deferred, hreads.element hname hkept⟩
  | .element tag none (some deferred) attributes, h => by
    simp only [Node.isReadable, Bool.and_eq_true] at h
    obtain ⟨⟨htag, hgiven⟩, hdeferred⟩ := h
    obtain ⟨hname, written, hopening, hkept⟩ := TagRef.exists_opening htag hgiven
    obtain ⟨body, calls, hbody, hreads⟩ := Node.gives_readsAs deferred hdeferred
    rw [Node.piecesOnto]
    exact ⟨_, _, hbody.deferred hopening, hreads.element hname hkept⟩
  | .element tag none none attributes, h => by
    simp only [Node.isReadable, Bool.and_eq_true] at h
    obtain ⟨hname, written, hopening, hkept⟩ := TagRef.exists_opening h.1 h.2
    rw [Node.piecesOnto]
    exact ⟨_, _, .empty hopening, readsAs_emptyElement hname hkept⟩

/-- What the members of a group give is read as the pieces of these trees. -/
theorem giveAll_readsAs : ∀ (i : Nat) (nodes : List Node), areReadable nodes = true →
    ∃ html calls, GiveAll i nodes html calls ∧ ReadsAs html (piecesOntoAll nodes)
  | i, [], _ => by
    rw [piecesOntoAll]
    exact ⟨_, _, giveAll_nil i, readsAs_empty⟩
  | i, node :: rest, h => by
    rw [areReadable, Bool.and_eq_true] at h
    obtain ⟨first, calls, hfirst, hreads⟩ := Node.gives_readsAs node h.1
    obtain ⟨others, more, hothers, hreads'⟩ := giveAll_readsAs (i + 1) rest h.2
    rw [piecesOntoAll]
    exact ⟨_, _, GiveAll.cons hfirst hothers, hreads.append hreads'⟩

end

/-- The markup of a tree is read as the pieces of the tree. -/
theorem Node.readsAs_render (node : Node) (h : node.isReadable = true) :
    ∃ r, node.render = .ok r ∧ ReadsAs r.html node.piecesOnto := by
  obtain ⟨html, calls, hgives, hreads⟩ := node.gives_readsAs h
  exact ⟨_, hgives.render, hreads⟩

/-- A tree whose names are names, whose attributes can be written and whose texts start no tags has
markup, and reading it gives the normal form of the tree. So trees with the same markup have the
same normal form. -/
theorem Node.readMarkup_render (node : Node) (h : node.isReadable = true) :
    (∃ r, node.render = .ok r ∧ readMarkup r.html = some node.normalForm) ∧
      ∀ (other : Node) (r r' : Rendered), other.isReadable = true →
        node.render = .ok r → other.render = .ok r' → r.html = r'.html →
          node.normalForm = other.normalForm := by
  have hread : ∀ tree : Node, tree.isReadable = true →
      ∃ r, tree.render = .ok r ∧ readMarkup r.html = some tree.normalForm := by
    intro tree htree
    obtain ⟨r, hr, hreads⟩ := tree.readsAs_render htree
    exact ⟨r, hr, hreads.readMarkup⟩
  refine ⟨hread node h, fun other r r' hother hr hr' hsame => ?_⟩
  obtain ⟨s, hs, hnode⟩ := hread node h
  obtain ⟨s', hs', hnode'⟩ := hread other hother
  rw [hr, Except.ok.injEq] at hs
  rw [hr', Except.ok.injEq] at hs'
  rw [← hs, hsame, hs', hnode', Option.some.injEq] at hnode
  exact hnode.symm

/-- A division with two texts, a line break and a span, whose body is deferred. -/
def sampleTree : Node :=
  .call (.shorthand "div")
    (some (.group [.text "a & ", .text "b", .element (.tag "br") none none {},
      .call (.shorthand "span") none (some (.text ""))
        [("data-n", .int (-3)), ("id", .absent)]
        [("class_", .text "\"x\" < 'y'"), ("hidden", .switch true)]]))
    none [] [("klass", .text "k")]

example : sampleTree.normalForm =
    [.paired "div" [("class", some "k")]
      [.text "a & b", .empty "br" [],
        .paired "span"
          [("data-n", some "-3"), ("class", some "\"x\" < 'y'"), ("hidden", none)] []]] := rfl

theorem Node.readMarkup_render_sample :
    sampleTree.isReadable = true ∧
      (∃ r, sampleTree.render = .ok r ∧ readMarkup r.html = some sampleTree.normalForm) ∧
      ∀ (other : Node) (r r' : Rendered), other.isReadable = true →
        sampleTree.render = .ok r → other.render = .ok r' → r.html = r'.html →
          sampleTree.normalForm = other.normalForm :=
  ⟨by decide +kernel, Node.readMarkup_render sampleTree (by decide +kernel)⟩

/-- A link with an attribute of some name and value, given by its name. -/
def linkWith (name : String) (value : AttrValue) : Node :=
  .call (.tag "a") none none [] [(name, value)]

/-- A number of 4301 digits. -/
def hugeNumber : Int :=
  .ofNat (Nat.pow 10 Number.maxDigits)

theorem render_linkWith_hugeNumber :
    (linkWith "x" (.int hugeNumber)).render = .error .tooManyDigits := by
  have hlong : Number.isWritable hugeNumber = false := by decide +kernel
  have hwritten : renderAttribute "x" (.int hugeNumber) = .error .tooManyDigits := by
    simp only [renderAttribute, hlong, Bool.false_eq_true, if_false]
  have hopening : (TagRef.tag "a").opening ⟨[], [("x", .int hugeNumber)]⟩ =
      .error .tooManyDigits := by
    have hname : parameterNames.contains "x" = false := by decide
    simp only [TagRef.opening, TagRef.resolve, GivenAttributes.render, List.find?_cons, hname,
      List.find?_nil, List.nil_append, renderAttributes, hwritten]
    rfl
  rw [linkWith, Node.call, Node.render, Node.evaluate, hopening]
  rfl

/-- All names are names here, and there are no texts. But a call takes two of its attributes for
something else, and a number with too many digits has no text. So these trees have no markup. -/
theorem Node.render_linkWith :
    (∀ name ∈ ["a", "render", "attrs", "x"], isName name = true) ∧
      (linkWith "render" (.text "x")).render = .error (.parameterName "render") ∧
      (linkWith "attrs" (.text "x")).render = .error (.parameterName "attrs") ∧
      (linkWith "x" (.int hugeNumber)).render = .error .tooManyDigits ∧
      ¬ ∃ r, (linkWith "render" (.text "x")).render = .ok r ∧
        readMarkup r.html = some (linkWith "render" (.text "x")).normalForm := by
  have hrender : (linkWith "render" (.text "x")).render = .error (.parameterName "render") := rfl
  refine ⟨by decide, hrender, rfl, render_linkWith_hugeNumber, ?_⟩
  rintro ⟨r, hr, -⟩
  rw [hrender] at hr
  cases hr

end StaticSite.Markup
