/-
StaticSite.Proofs.Page.Head — the metadata of a head read back.

The tags of a head are known but for the texts of the configuration, the
title and the path (`headLines`). Written with the references of the head
template, with one line end between two lines, they are the metadata of the
head (`headTags_eq_print`), so they are read back one for one: no text can
add a tag, take one away or change another one.
-/
import StaticSite.Page.Skeleton
import StaticSite.Proofs.Markup.TagSequence

namespace StaticSite

open StaticSite.Markup StaticSite.Text

namespace PageFrame

/-! ## 1. The lines of a head -/

/-- A text between two tags; nothing if it is empty. -/
def textTokens (s : String) : List Token :=
  if s.isEmpty then [] else [.text s]

/-- The line that names the creator, if the site has a handle that is not empty. -/
def creatorLines : Option String → List (List Token)
  | none => []
  | some handle =>
    if handle.isEmpty then []
    else [[.selfClosing "meta"
      [("name", some "twitter:creator"), ("content", some ("@" ++ handle))]]]

/-- The lines before the one that names the creator. -/
def firstLines (title : String) : List (List Token) :=
  [[.opening "meta" [("charset", some "utf-8")]],
    [.opening "meta" [("name", some "viewport"),
      ("content", some "width=device-width, initial-scale=1.0")]],
    .opening "title" [] :: (textTokens title ++ [.closing "title"]),
    [.selfClosing "meta" [("name", some "twitter:card"), ("content", some "summary_large_image")]]]

/-- The lines after the one that names the creator. -/
def lastLines (site : SiteConfig) (title path : String) : List (List Token) :=
  [[.selfClosing "meta" [("property", some "og:type"), ("content", some "website")]],
    [.selfClosing "meta" [("property", some "og:url"), ("content", some (site.baseUrl ++ path))]],
    [.selfClosing "meta" [("property", some "og:title"), ("content", some title)]],
    [.selfClosing "meta" [("property", some "og:description"),
      ("content", some site.description)]],
    [.selfClosing "meta" [("property", some "og:image"), ("content", some site.socialImage)]],
    [.opening "link" [("rel", some "icon"), ("href", some site.favicon),
      ("type", some "image/svg+xml")]],
    [.opening "link" [("rel", some "preconnect"), ("href", some "https://fonts.googleapis.com")]],
    [.opening "link" [("rel", some "preconnect"), ("href", some "https://fonts.gstatic.com"),
      ("crossorigin", none)]],
    [.opening "link" [("href", some site.fontsUrl), ("rel", some "stylesheet")]]]

/-- The lines of the metadata, each with its tags. -/
def headLines (site : SiteConfig) (title path : String) : List (List Token) :=
  firstLines title ++ creatorLines site.twitterHandle ++ lastLines site title path

/-- A line as tags and texts, with its line end. -/
def endLine (line : List Token) : List Token :=
  line ++ [.text "\n"]

/-- Lines as tags and texts: a line end after each line. -/
def lineTokens (lines : List (List Token)) : List Token :=
  lines.flatMap endLine

/-! ## 2. Writing -/

/-- The first line in front of what the others are written as. -/
theorem print_cons {line : List Token} {rest : List (List Token)} {first others : String}
    (hfirst : printTokens (endLine line) = first)
    (hothers : printTokens (lineTokens rest) = others) :
    printTokens (lineTokens (line :: rest)) = first ++ others := by
  rw [lineTokens, List.flatMap_cons, printTokens_append, hfirst, ← hothers, lineTokens]

theorem print_single (line : List Token) :
    printTokens (lineTokens [line]) = printTokens (endLine line) := by
  rw [lineTokens, List.flatMap_cons, List.flatMap_nil, List.append_nil]

theorem printTokens_lineTokens_append (first second : List (List Token)) :
    printTokens (lineTokens (first ++ second)) =
      printTokens (lineTokens first) ++ printTokens (lineTokens second) := by
  rw [lineTokens, List.flatMap_append, printTokens_append, lineTokens, lineTokens]

theorem print_textTokens (s : String) : printTokens (textTokens s) = escapeHead s := by
  by_cases hs : s = ""
  · subst hs
    decide
  · simp [textTokens, hs, printTokens, concat, Token.print]

/-- A line with a property and its text. -/
theorem print_propertyLine (name : String) {key : String} (hkey : isPlain key = true)
    (value : String) :
    printTokens (endLine [.selfClosing "meta" [(name, some key), ("content", some value)]]) =
      "<meta " ++ name ++ "=\"" ++ key ++ "\" content=\"" ++ (escapeHead value ++ "\" />\n") := by
  rw [← String.toList_inj]
  simp (disch := decide) [endLine, printTokens, concat, Token.print, printAttributes,
    escapeHead_of_plain, escapeHead_of_plain hkey, String.toList_append]

theorem print_titleLine (title : String) :
    printTokens (endLine (.opening "title" [] :: (textTokens title ++ [.closing "title"]))) =
      "<title>" ++ (escapeHead title ++ "</title>\n") := by
  rw [endLine, List.cons_append, printTokens_cons, List.append_assoc, printTokens_append,
    print_textTokens]
  rfl

theorem print_iconLine (icon : String) :
    printTokens (endLine [.opening "link"
        [("rel", some "icon"), ("href", some icon), ("type", some "image/svg+xml")]]) =
      "<link rel=\"icon\" href=\"" ++ (escapeHead icon ++ "\" type=\"image/svg+xml\">\n") := by
  rw [← String.toList_inj]
  simp (disch := decide) [endLine, printTokens, concat, Token.print, printAttributes,
    escapeHead_of_plain, String.toList_append]

theorem print_fontsLine (fonts : String) :
    printTokens (endLine [.opening "link" [("href", some fonts), ("rel", some "stylesheet")]]) =
      "<link href=\"" ++ (escapeHead fonts ++ ("\" rel=\"stylesheet\">" ++ "\n")) := by
  rw [← String.toList_inj]
  simp (disch := decide) [endLine, printTokens, concat, Token.print, printAttributes,
    escapeHead_of_plain, String.toList_append]

theorem print_creatorLines (handle : Option String) :
    printTokens (lineTokens (creatorLines handle)) = creatorTag handle := by
  cases handle with
  | none => rfl
  | some handle =>
    by_cases hs : handle = ""
    · subst hs
      decide
    · have hcreator : isPlain "twitter:creator" = true := by decide
      have hline := print_propertyLine "name" hcreator ("@" ++ handle)
      have hat : escapeHead "@" = "@" := by decide
      rw [creatorLines, if_neg (by simpa using hs), creatorTag, if_neg (by simpa using hs),
        print_cons hline rfl, escapeHead_append, hat, ← String.toList_inj]
      simp [lineTokens, printTokens, concat, String.toList_append]

theorem print_firstLines (title : String) :
    printTokens (lineTokens (firstLines title)) =
      "<meta charset=\"utf-8\">\n" ++
      ("<meta name=\"viewport\" content=\"width=device-width, initial-scale=1.0\">\n" ++
      ("<title>" ++ (escapeHead title ++ "</title>\n") ++
      ("<meta name=\"twitter:card\" content=\"summary_large_image\" />\n"))) :=
  print_cons (by decide) <|
  print_cons (by decide) <|
  print_cons (print_titleLine title) <|
  (by decide)

theorem print_lastLines (site : SiteConfig) (title path : String) :
    printTokens (lineTokens (lastLines site title path)) =
      "<meta property=\"og:type\" content=\"website\" />\n" ++
      ("<meta property=\"og:url\" content=\"" ++
        (escapeHead (site.baseUrl ++ path) ++ "\" />\n") ++
      ("<meta property=\"og:title\" content=\"" ++ (escapeHead title ++ "\" />\n") ++
      ("<meta property=\"og:description\" content=\"" ++
        (escapeHead site.description ++ "\" />\n") ++
      ("<meta property=\"og:image\" content=\"" ++ (escapeHead site.socialImage ++ "\" />\n") ++
      ("<link rel=\"icon\" href=\"" ++
        (escapeHead site.favicon ++ "\" type=\"image/svg+xml\">\n") ++
      ("<link rel=\"preconnect\" href=\"https://fonts.googleapis.com\">\n" ++
      ("<link rel=\"preconnect\" href=\"https://fonts.gstatic.com\" crossorigin>\n" ++
      ("<link href=\"" ++
        (escapeHead site.fontsUrl ++ ("\" rel=\"stylesheet\">" ++ "\n")))))))))) :=
  print_cons (by decide) <|
  print_cons (print_propertyLine "property" (by decide) (site.baseUrl ++ path)) <|
  print_cons (print_propertyLine "property" (by decide) title) <|
  print_cons (print_propertyLine "property" (by decide) site.description) <|
  print_cons (print_propertyLine "property" (by decide) site.socialImage) <|
  print_cons (print_iconLine site.favicon) <|
  print_cons (by decide) <|
  print_cons (by decide) <|
  (print_single _).trans (print_fontsLine site.fontsUrl)

theorem headTags_eq_print (site : SiteConfig) (title path : String) :
    headTags site title path ++ "\n" = printTokens (lineTokens (headLines site title path)) := by
  rw [headLines, printTokens_lineTokens_append, printTokens_lineTokens_append, print_creatorLines,
    print_firstLines, print_lastLines, escapeHead_append site.baseUrl path]
  unfold headTags
  simp only [String.append_assoc]

/-! ## 3. Reading -/

/-- Wherever the line stands, its tags are in order if those after its end are. -/
def LineInOrder (line : List Token) : Prop :=
  ∀ opened afterText rest, (∀ opened', areInOrder opened' true rest = true) →
    areInOrder opened afterText (endLine line ++ rest) = true

theorem areInOrder_lineTokens {lines : List (List Token)} (h : ∀ line ∈ lines, LineInOrder line)
    (opened : List String) (afterText : Bool) :
    areInOrder opened afterText (lineTokens lines) = true := by
  induction lines generalizing opened afterText with
  | nil => cases opened <;> rfl
  | cons line rest ih =>
    rw [lineTokens, List.flatMap_cons]
    exact h line List.mem_cons_self opened afterText _ fun opened' =>
      ih (fun other hother => h other (List.mem_cons_of_mem line hother)) opened' true

variable {tag : String} {attributes : List ReadAttribute}

theorem lineInOrder_opening (htag : isName tag = true)
    (hnames : attributes.all (fun entry => isName entry.1) = true) :
    LineInOrder [.opening tag attributes] := by
  intro opened afterText rest hrest
  simp [endLine, areInOrder, htag, hnames, hrest]

theorem lineInOrder_selfClosing (htag : isName tag = true)
    (hnames : attributes.all (fun entry => isName entry.1) = true) :
    LineInOrder [.selfClosing tag attributes] := by
  intro opened afterText rest hrest
  simp [endLine, areInOrder, htag, hnames, hrest]

theorem lineInOrder_title (title : String) :
    LineInOrder (.opening "title" [] :: (textTokens title ++ [.closing "title"])) := by
  intro opened afterText rest hrest
  have hname : isName "title" = true := by decide
  by_cases ht : title = ""
  · simp [endLine, textTokens, areInOrder, hname, hrest, ht]
  · simp [endLine, textTokens, areInOrder, hname, hrest, ht]

theorem lineInOrder_creatorLines (handle : Option String) :
    ∀ line ∈ creatorLines handle, LineInOrder line := by
  cases handle with
  | none => exact List.forall_mem_nil _
  | some handle =>
    rw [creatorLines]
    split
    · exact List.forall_mem_nil _
    · exact List.forall_mem_singleton.mpr
        (lineInOrder_selfClosing (by decide) (by simp +decide))

/-- The names of all tags and attributes are fixed, whatever the values are. -/
theorem lineInOrder_headLines (site : SiteConfig) (title path : String) :
    ∀ line ∈ headLines site title path, LineInOrder line := by
  have hmeta : isName "meta" = true := by decide
  have hlink : isName "link" = true := by decide
  rw [headLines, List.forall_mem_append, List.forall_mem_append]
  refine ⟨⟨?_, lineInOrder_creatorLines site.twitterHandle⟩, ?_⟩
  · simp only [firstLines, List.forall_mem_cons]
    exact ⟨lineInOrder_opening hmeta (by decide), lineInOrder_opening hmeta (by decide),
      lineInOrder_title title, lineInOrder_selfClosing hmeta (by decide), List.forall_mem_nil _⟩
  · simp only [lastLines, List.forall_mem_cons]
    exact ⟨lineInOrder_selfClosing hmeta (by decide),
      lineInOrder_selfClosing hmeta (by simp +decide),
      lineInOrder_selfClosing hmeta (by simp +decide),
      lineInOrder_selfClosing hmeta (by simp +decide),
      lineInOrder_selfClosing hmeta (by simp +decide),
      lineInOrder_opening hlink (by simp +decide), lineInOrder_opening hlink (by decide),
      lineInOrder_opening hlink (by decide), lineInOrder_opening hlink (by simp +decide),
      List.forall_mem_nil _⟩

/-- Does a tag name the creator? -/
def isCreatorTag : Token → Bool
  | .selfClosing _ attributes => attributes.contains ("name", some "twitter:creator")
  | _ => false

theorem any_isCreatorTag_append (first second : List (List Token)) :
    (lineTokens (first ++ second)).any isCreatorTag =
      ((lineTokens first).any isCreatorTag || (lineTokens second).any isCreatorTag) := by
  rw [lineTokens, List.flatMap_append, List.any_append, lineTokens, lineTokens]

theorem any_isCreatorTag_creatorLines (handle : Option String) :
    (lineTokens (creatorLines handle)).any isCreatorTag = true ↔
      ∃ name, handle = some name ∧ name ≠ "" := by
  cases handle with
  | none => simp [creatorLines, lineTokens]
  | some name =>
    by_cases hname : name = ""
    · simp [creatorLines, lineTokens, hname]
    · simp [creatorLines, lineTokens, hname, endLine, isCreatorTag]

/-- No other text can pass for the name of the creator. -/
theorem any_isCreatorTag_headLines (site : SiteConfig) (title path : String) :
    (lineTokens (headLines site title path)).any isCreatorTag = true ↔
      ∃ handle, site.twitterHandle = some handle ∧ handle ≠ "" := by
  have hfirst : (lineTokens (firstLines title)).any isCreatorTag = false := by
    by_cases ht : title = "" <;>
      simp +decide [firstLines, lineTokens, endLine, textTokens, ht, isCreatorTag]
  have hlast : (lineTokens (lastLines site title path)).any isCreatorTag = false := by
    simp [lastLines, lineTokens, endLine, isCreatorTag]
  rw [headLines, any_isCreatorTag_append, any_isCreatorTag_append, hfirst, hlast, Bool.false_or,
    Bool.or_false, any_isCreatorTag_creatorLines]

/-- The head up to its style is read as its lines, each followed by one line end, whatever the
texts are. The creator is named just if there is a handle that is not empty. -/
theorem head_readBack (site : SiteConfig) (title path style : String) :
    (∃ front, styledHead site title path style =
        front ++ ("<style>" ++ style ++ "</style></head>") ∧
      readTokens front =
        some (.opening "head" [] :: lineTokens (headLines site title path))) ∧
      ((∃ token ∈ lineTokens (headLines site title path), isCreatorTag token = true) ↔
        ∃ handle, site.twitterHandle = some handle ∧ handle ≠ "") := by
  refine ⟨⟨"<head>" ++ (headTags site title path ++ "\n"), ?_, ?_⟩, ?_⟩
  · rw [styledHead, element, element, renderElement, renderElement]
    simp [renderTexts, String.append_assoc]
  · have hhead : Token.print (.opening "head" []) = "<head>" := by decide
    rw [headTags_eq_print, ← hhead, ← printTokens_cons]
    refine readTokens_print ?_
    have hlines := areInOrder_lineTokens (lineInOrder_headLines site title path) ["head"] false
    simp +decide [areInOrder, hlines]
  · rw [← any_isCreatorTag_headLines site title path, List.any_eq_true]

end PageFrame

end StaticSite
