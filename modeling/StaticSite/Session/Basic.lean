/-
StaticSite.Session.Basic — what a session keeps between its steps.

A session has files, and stylesheets, sites and pages under names. A page
is made over a site and sees every later change of it. A name can be given
to another site; pages made before stay with theirs. So the sites are kept
in the order in which they were made, and names and pages refer to them by
number.
-/
import StaticSite.Generate.Run

namespace StaticSite.Session

/-! ## 1. Names -/

/-- The thing under a name. -/
def find? {α : Type} (name : String) : List (String × α) → Option α
  | [] => none
  | (n, a) :: rest => if n == name then some a else find? name rest

/-- The table with a thing put under a name: in the place of that name, or at the end. -/
def put {α : Type} (name : String) (a : α) : List (String × α) → List (String × α)
  | [] => [(name, a)]
  | (n, old) :: rest => if n == name then (n, a) :: rest else (n, old) :: put name a rest

/-! ## 2. States -/

/-- A page over the site with a number. -/
structure PageOver where
  page : Page
  site : Nat

/-- The state of a session. -/
structure State where
  files : FileSystem
  sheets : List (String × Stylesheet)
  sites : List SiteConfig
  siteNumbers : List (String × Nat)
  pages : List (String × PageOver)

/-- The state of a session that has only files. -/
def State.start (files : FileSystem) : State :=
  ⟨files, [], [], [], []⟩

namespace State

/-- The site with a number. -/
def siteAt (st : State) (n : Nat) : SiteConfig :=
  st.sites.getD n {}

/-- The state with a new site under a name. -/
def addSite (st : State) (name : String) (site : SiteConfig) : State :=
  { st with
    sites := st.sites ++ [site]
    siteNumbers := put name st.sites.length st.siteNumbers }

/-- The state with the site of a number changed. -/
def changeSite (st : State) (n : Nat) (change : SiteConfig → SiteConfig) : State :=
  { st with sites := st.sites.set n (change (st.siteAt n)) }

end State

end StaticSite.Session
