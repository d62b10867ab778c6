import Statechart.Failure
import Statechart.Proofs.Diagram.Lines
import Statechart.Proofs.Json.ReadBack

namespace Statechart

-- A text holds a style when it is a document that is one.
theorem parseStyle_eq_ok_iff (text : String) (style : Style) :
    parseStyle text = .ok style ↔ ∃ document, Json.parse text = .ok document ∧ Style.ofJson document = .ok style := by
  unfold parseStyle parseJson
  cases Json.parse text with
  | error reason => simp [Except.mapError, Except.bind]
  | ok document => cases hstyle : Style.ofJson document <;> simp [Except.mapError, Except.bind, hstyle]

-- Whatever a document shows, its font is named on its second line, if that fits a line.
theorem Diagram.secondLine_render {style : Style} (h : Style.FitsLine style.font) (items : List Item) :
    (Text.segments '\n' (ofItems style items).render)[1]? =
      some ("skinparam defaultFontName \"" ++ style.font ++ "\"") := by
  have hopen : '\n' ∉ "@startuml".toList := by decide
  have hfont : '\n' ∉ ("skinparam defaultFontName \"" ++ style.font ++ "\"").toList := by
    simpa using h.lineFeed_notMem
  have hrender : (ofItems style items).render =
      "@startuml" ++ "\n" ++ ("skinparam defaultFontName \"" ++ style.font ++ "\"" ++ "\n" ++
        (String.join (((ofItems style items).body.lines style.color).map (· ++ "\n")) ++ "@enduml")) := by
    rw [render_eq_lines, lines, List.map_append, String.join_append, headerLines, List.map_cons, List.map_singleton,
      String.join_cons, String.join_cons, String.join_nil, String.append_empty, ofItems_eq]
    simp only [String.append_assoc]
  rw [hrender, Text.segments_line hopen, Text.segments_line hfont]
  rfl

-- A style is read from a text exactly if it is an object whose texts for font and color fit their
-- lines. Over the standard style, accepted sites come to an accepted style, whichever of them say what:
-- neither its font nor its color breaks a line, and every document has the font on its second line.
theorem validate_layers (text : String) (sites : List Style) (hsites : ∀ site ∈ sites, site.validate = .ok ()) :
    (∀ style, parseStyle text = .ok style ↔
      ∃ members, Json.parse text = .ok (.object members) ∧ style = ⟨.object members⟩ ∧
        ∀ path ∈ [["font", "family"], ["highlight", "color"]], ∀ value,
          (Json.object members).follow path = some (.string value) → Style.FitsLine value) ∧
      let style := sites.foldl Style.withSite .standard
      style.validate = .ok () ∧ Style.FitsLine style.font ∧ Style.FitsLine style.color ∧
        ∀ items, (Text.segments '\n' (Diagram.ofItems style items).render)[1]? =
          some ("skinparam defaultFontName \"" ++ style.font ++ "\"") := by
  refine ⟨fun style => ?_, ?_⟩
  · rw [parseStyle_eq_ok_iff]
    simp only [Style.ofJson_eq_ok_iff, Json.isObject_iff]
    constructor
    · rintro ⟨document, hparse, ⟨members, rfl⟩, rfl, hvalid⟩
      exact ⟨members, hparse, rfl, (Style.validate_eq_ok_iff_follow _).mp hvalid⟩
    · rintro ⟨members, hparse, rfl, hfits⟩
      exact ⟨_, hparse, ⟨members, rfl⟩, rfl, (Style.validate_eq_ok_iff_follow _).mpr hfits⟩
  · have hvalid := Style.validate_foldl_withSite Style.validate_standard hsites
    exact ⟨hvalid, Style.fitsLine_font hvalid, Style.fitsLine_color hvalid,
      Diagram.secondLine_render (Style.fitsLine_font hvalid)⟩

def serifDocument : Json :=
  .object [("font", .object [("family", .string "Serif")])]

-- Sites of which a later one hides a part of an earlier one, and one has a quote where none is looked for.
def layeredSites : List Style :=
  [⟨serifDocument⟩, ⟨.object [("font", .object [("size", .string "\"")]), ("highlight", .string "\n")]⟩,
    ⟨.object [("highlight", .object [("color", .string "teal")])]⟩]

theorem validate_layeredSites :
    (∀ site ∈ layeredSites, site.validate = .ok ()) ∧
      parseStyle (serifDocument.compact ++ "\n") = .ok ⟨serifDocument⟩ ∧
      (layeredSites.foldl Style.withSite .standard).validate = .ok () ∧
      Style.FitsLine (layeredSites.foldl Style.withSite .standard).color ∧
      (layeredSites.foldl Style.withSite .standard).color = "teal" ∧
      (Text.segments '\n' (Diagram.ofItems (layeredSites.foldl Style.withSite .standard) []).render)[1]? =
        some "skinparam defaultFontName \"Serif\"" := by
  have hsites : ∀ site ∈ layeredSites, site.validate = .ok () := by
    intro site hm
    simp only [layeredSites, List.mem_cons, List.not_mem_nil, or_false] at hm
    rcases hm with rfl | rfl | rfl <;> rfl
  have hread : Json.parse (serifDocument.compact ++ "\n") = .ok serifDocument :=
    Json.parse_compact (by simp [serifDocument, Json.Readable, Json.MembersReadable, Json.depthLimit, Table.keys])
      (by simp [Json.isSpace])
  have hfont : (layeredSites.foldl Style.withSite .standard).font = "Serif" := by decide +kernel
  obtain ⟨hparse, hvalid, -, hcolor, hline⟩ := validate_layers (serifDocument.compact ++ "\n") layeredSites hsites
  refine ⟨hsites, (hparse _).mpr ⟨_, hread, rfl, (Style.validate_eq_ok_iff_follow _).mp rfl⟩, hvalid, hcolor,
    by decide +kernel, ?_⟩
  rw [hline, hfont]
  rfl

end Statechart
