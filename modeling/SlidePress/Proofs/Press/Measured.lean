import SlidePress.Proofs.Footer.Box
import SlidePress.Proofs.Press.PageCount
import SlidePress.Proofs.Style.Resolved

/-!
# `SlidePress.Proofs.Press.Measured` — what is measured in the fonts of a style

A document measures texts in two places: the page labels before its second pass, and the date where a page ends. Both
name a font, long after the style was resolved, and both give up where the library gives no width. If everything can be
measured, no print fails for it (`Typeset.print_ne_measure`).

The fonts of a style are registered when it is resolved, and stay so whatever is resolved later. So a style can be used
at any later time with a library that measures any text in a registered font (`resolved_measurable`).
-/

namespace SlidePress

/-- **A library measures** any text in a font that is registered. -/
def StyleLibrary.Measures (library : StyleLibrary) : Prop :=
  ∀ fonts font, fonts.contains font = true → ∀ size text, ∃ width, library.width fonts font size text = .ok width

/-- The usual library does so, whichever files can be read. -/
theorem StyleLibrary.withFiles_measures (files : List String) : (StyleLibrary.withFiles files).Measures := by
  intro fonts font registered size text
  have known : ∃ metrics, fonts.metrics? font = some metrics := by
    unfold FontRegistry.metrics?
    cases standardFonts.lookup font with
    | some metrics => exact ⟨metrics, rfl⟩
    | none => exact ⟨monospaceMetrics, if_pos registered⟩
  obtain ⟨metrics, isMetrics⟩ := known
  show ∃ width, fonts.widthOf font size text = .ok width
  unfold FontRegistry.widthOf
  rw [isMetrics]
  exact ⟨_, rfl⟩

/-- **A text can be measured** in a font that is registered. -/
theorem StyleLibrary.Measures.exists_measure {library : StyleLibrary} (measures : library.Measures) {fonts : FontRegistry}
    {font : String} (registered : fonts.contains font = true) (size : Number) (text : String) :
    ∃ width, library.measure fonts font size text = .ok width := by
  obtain ⟨width, isWidth⟩ := measures fonts font registered size text
  unfold StyleLibrary.measure
  rw [isWidth]
  exact ⟨width, rfl⟩

namespace Typeset

variable {set : Typeset} (measured : ∀ text, ∃ width, set.chrome.measure text = .ok width)

include measured

/-- **A pass that measures everything** fails for other reasons only. -/
theorem stats_ne_measure (footer : Option (FooterMetrics Float)) (headers : List Header) (cause : MeasureError) :
    (set.pass footer headers).1.stats ≠ .error (.measure cause) := by
  let pass : Pass := { chrome := set.chrome, footer }
  have drawable : pass.footerOutcome = .ok () := by
    rw [Pass.footerOutcome_eq_ok_iff]
    intro _
    exact Or.inr (measured _)
  have drawn (events : List PassEvent) : (pass.run {} events).2.2 = .ok () :=
    (Pass.run_eq_ok_iff pass {} events).mpr (Or.inl drawable)
  unfold Typeset.pass
  cases set.chrome.story set.wrap set.slides with
  | error refused =>
      intro failed
      cases failed
  | ok story =>
      rcases layout : set.layout set.chrome.frame story with ⟨events, failure⟩
      rcases run : pass.run {} events with ⟨final, calls, outcome⟩
      have succeeds := drawn events
      rw [run] at succeeds
      obtain rfl : outcome = .ok () := succeeds
      have run : ({ chrome := set.chrome, footer } : Pass).run {} events = (final, calls, .ok ()) := run
      simp only [setStory, layout, run]
      cases failure with
      | none =>
          intro failed
          cases failed
      | some reason =>
          intro failed
          cases failed

/-- **A print that measures everything** fails for other reasons only: neither a page label nor a date stops it. -/
theorem print_ne_measure (target : Path) (headers : List Header) (tree : FileTree) (cause : MeasureError) :
    (set.press.print target headers tree).outcome ≠ .error (.measure cause) ∧
      (set.press.print target headers tree).outcome ≠ .error (.pass (.measure cause)) := by
  have stats := stats_ne_measure measured
  rcases Press.print_cases set.press target headers tree with ⟨refused, failed, outcome, -⟩ | ⟨total, later, -, outcome, -⟩
  · -- the first pass has failed, and measures nothing but dates
    have counts := Press.layoutPass_counts set.press headers tree
    rw [failed] at counts
    rw [outcome]
    cases counts with
    | passFailed isStats =>
        constructor
        · intro same
          cases same
        · intro same
          cases same
          exact stats _ _ _ isStats
    | noPages => exact ⟨by simp, by simp⟩
  · have renders := Press.renderPass_renders set.press (some total) target later tree
    rw [outcome]
    generalize (set.press.renderPass (some total) target later tree).tree = files at renders
    generalize (set.press.renderPass (some total) target later tree).outcome = result at renders
    cases renders with
    | uncounted none_ => cases none_
    | noDirectories => exact ⟨by simp, by simp⟩
    | @unmeasured count _ _ _ _ refused =>
        have labels : ∃ width, maxLabelWidth count set.press.measure = .ok width :=
          exists_maxLabelWidth fun label _ => measured label
        obtain ⟨width, isWidth⟩ := labels
        rw [FooterMetrics.ofCount] at refused
        cases (map_eq_error_iff.mp refused).symm.trans isWidth
    | writes _ _ _ writes =>
        cases writes with
        | passFailed isStats =>
            constructor
            · intro same
              cases same
            · intro same
              cases same
              exact stats _ _ _ isStats
        | pagesDiffer => exact ⟨by simp, by simp⟩
        | notMoved => exact ⟨by simp, by simp⟩
        | moved => exact ⟨by simp, by simp⟩

end Typeset

/-! ## The fonts of a style -/

/-- **What a style needs** of a library and of the registered fonts to be drawn with: its fonts are there, and whatever is
measured in them can be. -/
structure Style.Measurable (style : Style) (library : StyleLibrary) (fonts : FontRegistry) : Prop where
  registered : ∀ font ∈ style.fonts, fonts.contains font = true
  texts : ∀ font ∈ style.fonts, ∀ size text, ∃ width, library.measure fonts font size text = .ok width
  /-- The page labels have a widest one. -/
  labels : ∀ font ∈ style.fonts, ∀ size count, ∃ width,
    maxLabelWidth count (library.measure fonts font size) = .ok width
  /-- Every footer can be drawn. -/
  footers : ∀ page label boxWidth, ∃ placement,
    ((Chrome.ofStyle style fonts library).drawFooter page label boxWidth).2 = .ok placement
  /-- No document fails for what is measured, whatever its slides and its layout are. -/
  prints : ∀ set : Typeset, set.chrome = Chrome.ofStyle style fonts library → ∀ target headers tree cause,
    (set.press.print target headers tree).outcome ≠ .error (.measure cause) ∧
      (set.press.print target headers tree).outcome ≠ .error (.pass (.measure cause))

theorem Style.measurable_of_registered {style : Style} {library : StyleLibrary} (measures : library.Measures)
    {fonts : FontRegistry} (registered : ∀ font ∈ style.fonts, fonts.contains font = true) :
    style.Measurable library fonts := by
  have texts : ∀ font ∈ style.fonts, ∀ size text, ∃ width, library.measure fonts font size text = .ok width := by
    intro font mem
    exact measures.exists_measure (registered font mem)
  -- header and footer are set in the first of the fonts
  have chromeTexts : ∀ text, ∃ width, (Chrome.ofStyle style fonts library).measure text = .ok width :=
    texts style.textFont List.mem_cons_self (.float style.chromeSize)
  refine ⟨registered, texts, ?_, ?_, ?_⟩
  · intro font mem size count
    exact exists_maxLabelWidth fun label _ => texts font mem size label
  · intro page label boxWidth
    rw [Chrome.placement_of_drawFooter, Chrome.footerPlacement_eq]
    have dated : ∃ dateX, (Chrome.ofStyle style fonts library).dated boxWidth = .ok dateX := by
      unfold Chrome.dated dateStart
      obtain ⟨width, isWidth⟩ := chromeTexts (Chrome.ofStyle style fonts library).style.date
      rw [isWidth]
      split
      · exact ⟨_, rfl⟩
      · exact ⟨_, rfl⟩
    obtain ⟨dateX, isDated⟩ := dated
    rw [isDated]
    exact ⟨_, rfl⟩
  · intro set isChrome target headers tree cause
    apply Typeset.print_ne_measure
    rw [isChrome]
    exact chromeTexts

/-- **The fonts of a resolved style can be measured**, at once and after any later history: from any desk, after any
history of configurations that were resolved or failed to be. The library may have changed each time. It is assumed that
it keeps the fonts that are registered, and registers those that it finds, from the time when the style is resolved; and
that it measures any text in a registered font when the style is drawn with. -/
theorem resolved_measurable (start : Desk) (before : List Resolution) {later : List Resolution} {resolution : Resolution}
    {library : StyleLibrary} {style : Style} {desk : Desk} (keeps : resolution.library.KeepsFonts)
    (laterKeep : ∀ other ∈ later, other.library.KeepsFonts) (measures : library.Measures)
    (resolved : resolution.outcome (start.after before) = (.ok style, desk)) :
    style.Measurable library (desk.after later).fonts := by
  apply Style.measurable_of_registered measures
  intro font mem
  have registered : desk.fonts.contains font = true := Config.registered_of_resolveOn keeps resolved font mem
  exact desk.extends_after laterKeep font registered

/-- A configuration fails at its third font, the next one is resolved with two font files, and a third one fails: the
files' fonts are there, and the date of the style can be measured. -/
theorem resolved_measurable_between_failures :
    let start : Desk := {}
    let failing : Resolution := { config := { monoFont := "Curier" } }
    let resolution : Resolution :=
      { config := { textFont := "fonts/Gothic.ttf", monoFont := "Typewriter.OTF", date := "May" }
        library := .withFiles ["fonts/Gothic.ttf", "Typewriter.OTF"] }
    ∃ style desk, resolution.outcome (start.after [failing]) = (.ok style, desk) ∧
      style.fonts = ["Gothic", "Helvetica-Bold", "Typewriter", "Times-Italic"] ∧
      (start.after [failing]).fonts.names = ["Helvetica", "Symbol", "ZapfDingbats", "Helvetica-Bold"] ∧
      ∃ width, StyleLibrary.usual.measure (desk.after [failing]).fonts style.textFont 10 style.date = .ok width := by
  intro start failing resolution
  obtain ⟨style, found, isFonts⟩ := (Option.any_eq_true _ _).mp
    (show (resolution.outcome (start.after [failing])).1.toOption.any
      (fun style => style.fonts = ["Gothic", "Helvetica-Bold", "Typewriter", "Times-Italic"]) = true by decide +kernel)
  have resolved : resolution.outcome (start.after [failing]) =
      (.ok style, (resolution.outcome (start.after [failing])).2) := Prod.ext (ok_of_toOption found) rfl
  have keeps (files : List String) : (StyleLibrary.withFiles files).KeepsFonts :=
    (StyleLibrary.withFiles_registers files).keepsFonts
  have laterKeep : ∀ other ∈ [failing], other.library.KeepsFonts := List.forall_mem_singleton.mpr (keeps fontFiles)
  have measurable := resolved_measurable start [failing] (keeps _) laterKeep (StyleLibrary.withFiles_measures fontFiles)
    resolved
  exact ⟨style, _, resolved, of_decide_eq_true isFonts, by decide +kernel,
    measurable.texts style.textFont List.mem_cons_self 10 style.date⟩

end SlidePress
