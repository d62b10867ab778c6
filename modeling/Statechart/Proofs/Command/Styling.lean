import Statechart.Proofs.Command.Play
import Statechart.Proofs.Diagram.Header
import Statechart.Proofs.Files.Paths
import Statechart.Proofs.Style.Lens

namespace Statechart

namespace Style

variable {s site : Style} {path : String}

-- Over a style that has a text at a path, a site has the text that it has there by itself, or else that one.
theorem getD_withSite {base : Style} {value : String} (hbase : base.get? path = some value) :
    ((base.withSite site).get? path).getD value = (site.get? path).getD value := by
  unfold get? at hbase ⊢
  by_cases hopen : site.document.LeavesOpen (Text.segments '.' path)
  · rw [withSite, overlay, Json.followString_merge_of_leavesOpen hopen, hbase, Json.followString_of_leavesOpen hopen]
    rfl
  · rw [withSite, overlay, Json.followString_merge_of_not_leavesOpen hopen]

theorem get?_color_standard : standard.get? colorPath = some defaultColor := by decide

theorem get?_font_standard : standard.get? fontPath = some defaultFont := by decide

-- A text that is put at a path if there is one.
def setText? (s : Style) (path : String) (text : Option String) : Style :=
  match text with
  | some text => s.set path (.string text)
  | none => s

theorem isObject_setText? (hs : s.document.isObject = true) (path : String) (text : Option String) :
    (s.setText? path text).document.isObject = true := by
  cases text with
  | none => exact hs
  | some text => exact isObject_set hs path (.string text)

theorem get?_setText? (hs : s.document.isObject = true) (path : String) (text : Option String) :
    (s.setText? path text).get? path = text.or (s.get? path) := by
  cases text with
  | none => rfl
  | some text => exact get?_set_self hs path text

theorem follow_setText? (s : Style) {path : String} {text : Option String} {other : List String}
    (h : text.isSome = true → Json.Apart (Text.segments '.' path) other) :
    (s.setText? path text).document.follow other = s.document.follow other := by
  cases text with
  | none => rfl
  | some text => exact follow_set_of_apart s (.string text) (h rfl)

end Style

namespace Options

variable (o : Options) {site : Style}

theorem restyle_eq (site : Style) :
    o.restyle site = (site.setText? Style.colorPath o.color).setText? Style.fontPath o.font := by
  unfold restyle
  cases o.color <;> cases o.font <;> rfl

theorem segments_colorPath : Text.segments '.' Style.colorPath = ["highlight", "color"] := by decide

theorem segments_fontPath : Text.segments '.' Style.fontPath = ["font", "family"] := by decide

theorem get?_color_restyle (hsite : site.document.isObject = true) :
    (o.restyle site).get? Style.colorPath = o.color.or (site.get? Style.colorPath) := by
  have hapart : Json.Apart (Text.segments '.' Style.fontPath) (Text.segments '.' Style.colorPath) := by
    unfold Json.Apart
    decide
  rw [restyle_eq, ← Style.get?_setText? hsite, Style.get?, Json.followString, Style.follow_setText? _ fun _ => hapart]
  rfl

theorem get?_font_restyle (hsite : site.document.isObject = true) :
    (o.restyle site).get? Style.fontPath = o.font.or (site.get? Style.fontPath) := by
  have hapart : Json.Apart (Text.segments '.' Style.colorPath) (Text.segments '.' Style.fontPath) := by
    unfold Json.Apart
    decide
  rw [restyle_eq, Style.get?_setText? (Style.isObject_setText? hsite _ _), Style.get?, Json.followString,
    Style.follow_setText? _ fun _ => hapart]
  rfl

theorem follow_restyle (site : Style) {path : List String}
    (hcolor : o.color.isSome = true → Json.Apart ["highlight", "color"] path)
    (hfont : o.font.isSome = true → Json.Apart ["font", "family"] path) :
    (o.restyle site).document.follow path = site.document.follow path := by
  rw [restyle_eq, Style.follow_setText? _ (segments_fontPath ▸ hfont),
    Style.follow_setText? _ (segments_colorPath ▸ hcolor)]

-- An accepted style with texts laid over it is accepted if these fit their lines.
theorem validate_restyle (hsite : site.document.isObject = true) (hvalid : site.validate = .ok ()) :
    (o.restyle site).validate = .ok () ↔
      (∀ color, o.color = some color → Style.FitsLine color) ∧ ∀ font, o.font = some font → Style.FitsLine font := by
  have hor {text old : Option String} (hold : ∀ value, old = some value → Style.FitsLine value) :
      (∀ value, text.or old = some value → Style.FitsLine value) ↔
        ∀ value, text = some value → Style.FitsLine value := by
    cases text with
    | none => simpa using hold
    | some text => simp
  simp only [Style.validate_eq_ok_iff, Style.check_eq_ok_iff] at hvalid ⊢
  rw [get?_color_restyle o hsite, get?_font_restyle o hsite, hor hvalid.1, hor hvalid.2, and_comm]

end Options

-- The style of a site as a request names it.
def Machine.site (machine : Machine) : Option String → Except Failure Style
  | none => .ok .empty
  | some path => (((machine.read path).bind decodeText).mapError .channel).bind parseStyle

-- What a site says: nothing if no file is named, or else what the file holds, which has to be a text that is
-- read as an object, and one that is accepted by itself.
inductive SiteSays (machine : Machine) : Option String → Json.Members → Prop
  | nothing : SiteSays machine none []
  | file {path text : String} {bytes : ByteArray} {members : Json.Members} (hread : machine.read path = .ok bytes)
      (htext : String.fromUTF8? bytes = some text) (hparse : Json.parse text = .ok (.object members))
      (hvalid : (⟨.object members⟩ : Style).validate = .ok ()) : SiteSays machine (some path) members

theorem SiteSays.validate {machine : Machine} {config : Option String} {members : Json.Members}
    (h : SiteSays machine config members) : (⟨.object members⟩ : Style).validate = .ok () := by
  cases h with
  | nothing => rfl
  | file hread htext hparse hvalid => exact hvalid

theorem decodeText_eq_ok_iff (bytes : ByteArray) (text : String) :
    decodeText bytes = .ok text ↔ String.fromUTF8? bytes = some text := by
  unfold decodeText
  cases String.fromUTF8? bytes <;> simp

theorem Machine.site_eq_ok_iff (machine : Machine) (config : Option String) (style : Style) :
    machine.site config = .ok style ↔ ∃ members, style = ⟨.object members⟩ ∧ SiteSays machine config members := by
  constructor
  · intro h
    cases config with
    | none =>
        obtain rfl := Except.ok.inj h
        exact ⟨[], rfl, .nothing⟩
    | some path =>
        rw [site] at h
        cases hread : machine.read path with
        | error e =>
            rw [hread] at h
            cases h
        | ok bytes =>
            rw [hread] at h
            cases htext : decodeText bytes with
            | error e =>
                rw [Except.bind, htext] at h
                cases h
            | ok text =>
                rw [Except.bind, htext] at h
                obtain ⟨document, hparse, hstyle⟩ := (parseStyle_eq_ok_iff text _).mp h
                obtain ⟨hobject, rfl, hvalid⟩ := (Style.ofJson_eq_ok_iff document _).mp hstyle
                obtain ⟨members, rfl⟩ := (Json.isObject_iff document).mp hobject
                exact ⟨members, rfl, .file hread ((decodeText_eq_ok_iff bytes text).mp htext) hparse hvalid⟩
  · rintro ⟨members, rfl, hmembers⟩
    cases hmembers with
    | nothing => rfl
    | file hread htext hparse hvalid =>
        have hstyle := (parseStyle_eq_ok_iff _ _).mpr
          ⟨_, hparse, (Style.ofJson_eq_ok_iff _ ⟨.object members⟩).mpr ⟨rfl, rfl, hvalid⟩⟩
        rw [site, hread, Except.bind, (decodeText_eq_ok_iff _ _).mpr htext]
        exact hstyle

namespace Session

theorem play_siteStyle_site (o : Options) (events : List Event) (machine : Machine) :
    (siteStyle o : Session (StateM Machine) Style).play events machine =
      (((machine.site o.config).bind fun site =>
        ((o.restyle site).validate.mapError .style).map fun _ => o.restyle site, events), machine) := by
  cases hconfig : o.config with
  | none => exact play_siteStyle o events machine hconfig
  | some path =>
      have hread : (Host.read path : StateM Machine _).run machine = (machine.read path, machine) := rfl
      simp only [siteStyle, hconfig, play_bind, play_askText, play_settle, Machine.site, hread]
      cases (machine.read path).bind decodeText with
      | error e => rfl
      | ok text =>
          simp only [Except.mapError, Except.bind]
          cases parseStyle text with
          | error failure => rfl
          | ok site =>
              dsimp only
              cases (o.restyle site).validate <;> rfl

-- The style of a request is built exactly if the file it names, if any, holds an accepted style and its own color
-- and font fit their lines. Each of these comes first, then the file's, then the one built in; what stands
-- at a path apart from those that are set is what the file has there.
theorem siteStyle_precedence (o : Options) (events : List Event) (machine : Machine) :
    let built := ((siteStyle o : Session (StateM Machine) Style).play events machine).1.1
    ((∃ style, built = .ok style) ↔
        (∃ members, SiteSays machine o.config members) ∧
          (∀ color, o.color = some color → Style.FitsLine color) ∧
          ∀ font, o.font = some font → Style.FitsLine font) ∧
      ∀ style, built = .ok style → ∃ members, SiteSays machine o.config members ∧
        let file := Json.object members
        (Style.standard.withSite style).color =
            (o.color.or (file.followString ["highlight", "color"])).getD "orange" ∧
        (Style.standard.withSite style).font =
            (o.font.or (file.followString ["font", "family"])).getD "Noto Sans JP" ∧
        ∀ path, (o.color.isSome = true → Json.Apart ["highlight", "color"] path) →
          (o.font.isSome = true → Json.Apart ["font", "family"] path) →
          style.document.follow path = file.follow path := by
  intro built
  have hbuilt : built = (machine.site o.config).bind fun site =>
      ((o.restyle site).validate.mapError .style).map fun _ => o.restyle site :=
    congrArg (·.1.1) (play_siteStyle_site o events machine)
  have hok (style : Style) : built = .ok style ↔ ∃ members, SiteSays machine o.config members ∧
      (o.restyle ⟨.object members⟩).validate = .ok () ∧ style = o.restyle ⟨.object members⟩ := by
    rw [hbuilt]
    constructor
    · intro h
      obtain ⟨site, hsite, h⟩ := exists_of_bind_ok h
      obtain ⟨members, rfl, hmembers⟩ := (machine.site_eq_ok_iff _ site).mp hsite
      cases hvalid : (o.restyle ⟨.object members⟩).validate with
      | error e =>
          rw [hvalid] at h
          cases h
      | ok accepted =>
          rw [hvalid] at h
          exact ⟨members, hmembers, hvalid, (Except.ok.inj h).symm⟩
    · rintro ⟨members, hmembers, hvalid, rfl⟩
      rw [(machine.site_eq_ok_iff _ _).mpr ⟨members, rfl, hmembers⟩, Except.bind, hvalid]
      rfl
  have hobject (members : Json.Members) : (⟨.object members⟩ : Style).document.isObject = true := rfl
  have hvalid {members : Json.Members} (hmembers : SiteSays machine o.config members) :=
    Options.validate_restyle o (hobject members) hmembers.validate
  constructor
  · constructor
    · rintro ⟨style, hstyle⟩
      obtain ⟨members, hmembers, hrestyled, -⟩ := (hok style).mp hstyle
      exact ⟨⟨members, hmembers⟩, (hvalid hmembers).mp hrestyled⟩
    · rintro ⟨⟨members, hmembers⟩, hfits⟩
      exact ⟨_, (hok _).mpr ⟨members, hmembers, (hvalid hmembers).mpr hfits, rfl⟩⟩
  · intro style hstyle
    obtain ⟨members, hmembers, -, rfl⟩ := (hok style).mp hstyle
    refine ⟨members, hmembers, ?_, ?_, fun path => Options.follow_restyle o _⟩
    · rw [Style.color, Style.getD_withSite Style.get?_color_standard, Options.get?_color_restyle o rfl, Style.get?,
        Options.segments_colorPath]
      rfl
    · rw [Style.font, Style.getD_withSite Style.get?_font_standard, Options.get?_font_restyle o rfl, Style.get?,
        Options.segments_fontPath]
      rfl

-- A color of the request's makes its own way past whatever the file has there.
example : (({ color := some "teal" } : Options).restyle ⟨.object [("highlight", .null)]⟩).document =
    .object [("highlight", .object [("color", .string "teal")])] := by
  rfl

end Session

end Statechart
