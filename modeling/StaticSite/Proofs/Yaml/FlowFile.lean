/-
StaticSite.Proofs.Yaml.FlowFile — a file that holds one line of data.

Reading such a file gives the data back (`FlowData.IsFit.load_text`). So what
is loaded from it is what is made of the data, with the same faults
(`FlowData.IsFit.load_line`).
-/
import StaticSite.Config.File
import StaticSite.Release.Load
import StaticSite.Proofs.Files.Reading
import StaticSite.Proofs.Generate.Resuming
import StaticSite.Proofs.Yaml.FlowValue
import StaticSite.Proofs.Yaml.ReadLine

namespace StaticSite

open StaticSite.Yaml

/-! ## 1. Texts of files -/

/-- A text without carriage returns is read from its bytes. -/
theorem textOf?_encodeUtf8 {s : List Char} (h : '\r' ∉ s) :
    textOf? (Text.encodeUtf8 (String.ofList s)) = some (String.ofList s) := by
  have hdecode : Text.decodeUtf8 (Text.encodeUtf8 (String.ofList s)) = some (String.ofList s) :=
    Text.decodeUtf8_eq_some_iff.mpr rfl
  rw [textOf?, hdecode]
  simp [Text.unifyLineEnds_of_not_mem h]

/-! ## 2. Lines of data -/

variable {d : FlowData} {rest : List Char}

theorem not_mem_text (hd : d.IsFit) (hrest : EndsDocument rest) : '\r' ∉ d.text ++ rest := by
  rw [List.mem_append, not_or]
  constructor
  · intro hmem
    have hline := hd.isLineChar_of_mem_text _ hmem
    cases hline
  · cases hrest with
    | none => exact List.not_mem_nil
    | line => decide

/-- The line of data is read as the data. -/
theorem Yaml.FlowData.IsFit.load_text (hd : d.IsFit) (hrest : EndsDocument rest) :
    Yaml.load (d.text ++ rest) = .ok d.value := by
  have hmode : (⟨.v12, false⟩ : Mode) = flowMode := rfl
  rw [Yaml.load, readFile_text hd hrest]
  simp only [hd.resolve_node, hmode, hd.value_node]

theorem Yaml.FlowData.IsFit.readData_text (hd : d.IsFit) (hrest : EndsDocument rest)
    {fs : FileSystem} {p : Path}
    (hfile : fs.readBytes p = .ok (Text.encodeUtf8 (String.ofList (d.text ++ rest)))) :
    fs.readData p = .ok d.value := by
  refine FileSystem.readData_ok_iff.mpr ⟨_, _, hfile, textOf?_encodeUtf8 (not_mem_text hd hrest), ?_⟩
  rw [String.toList_ofList]
  exact hd.load_text hrest

/-- What is loaded from a line of data is what the data spells, or the same fault. -/
theorem Yaml.FlowData.IsFit.load_line (hd : d.IsFit) (hrest : EndsDocument rest)
    {fs : FileSystem} {p : Path}
    (hfile : fs.readBytes p = .ok (Text.encodeUtf8 (String.ofList (d.text ++ rest)))) :
    SiteConfig.load fs p = (SiteConfig.ofValue d.value).mapError .content ∧
      loadReleases fs p = (releasesOf d.value).mapError .content :=
  ⟨FileSystem.loadData_of_readData (hd.readData_text hrest hfile) SiteConfig.ofValue,
    FileSystem.loadData_of_readData (hd.readData_text hrest hfile) releasesOf⟩

/-- A name that looks like a merge key, a version that looks like a number, and links that are
none. -/
def oddData : FlowData :=
  .map [("site", .map [("name", .string "<<"), ("version", .string "0x1F"),
      ("tagline", .string "\t \"\\\u00e9"), ("twitter_handle", .null)]),
    ("nav_links", .list [.bool true, .int (-12), .string "null"])]

theorem isFit_oddData : oddData.IsFit := by
  refine .map _ (fun e he => ?_) (by decide) (by decide)
  rcases he with _ | ⟨_, _ | ⟨_, ⟨⟩⟩⟩
  · refine .map _ (fun e he => ?_) (by decide) (by decide)
    rcases he with _ | ⟨_, _ | ⟨_, _ | ⟨_, _ | ⟨_, ⟨⟩⟩⟩⟩⟩
    · exact .string _
    · exact .string _
    · exact .string _
    · exact .null
  · refine .list _ fun d hd => ?_
    rcases hd with _ | ⟨_, _ | ⟨_, _ | ⟨_, ⟨⟩⟩⟩⟩
    · exact .bool _
    · exact .int _ (by decide)
    · exact .string _

theorem readBytes_smallSystem (config : String) :
    (smallSystem config).readBytes (.ofText "config/site.yaml") = .ok (Text.encodeUtf8 config) := by
  rfl

theorem load_line_oddData :
    SiteConfig.load (smallSystem (String.ofList (oddData.text ++ ['\n'])))
        (.ofText "config/site.yaml") = .error (.content (.navLinkIncomplete 0)) ∧
      loadReleases (smallSystem (String.ofList (oddData.text ++ ['\n'])))
        (.ofText "config/site.yaml") = .ok [] :=
  isFit_oddData.load_line .line (readBytes_smallSystem _)

end StaticSite
