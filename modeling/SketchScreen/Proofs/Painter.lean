import SketchScreen.Proofs.Pixels
import SketchScreen.Proofs.Surfaces

/-!
# Rendering Forgets the Screen

A sketch that is rendered starts from a black screen, so nothing of what was there before is
left: not in the pixels, and not in the reports.

## Main Definitions

- `Painter`: what requests do to the pixels of a screen.
- `Painter.pixels`: the pixels of a screen after all its requests.
- `Painter.plain`: the painter that does what is known of requests, and no more.

## Design Notes

How a painter fills polygons, draws ellipses and sets type is not known, so statements about
pixels are about every painter: it answers a request with a function of the image, does what
is known of boxes, lines and masks, and keeps the size.  Two screens that show the same then
show the same after every primitive (`Painter.alike`), and any two screens show the same once
they are cleared (`Painter.pixels_clear`).
-/

namespace SketchScreen

/-- What requests do to the pixels of a screen. -/
structure Painter (raster : Raster) where
  /-- The image after a request. -/
  paint : Request → Image → Image
  /-- Where it is known what a request does, it does that. -/
  paint_eq : ∀ {r image next}, Request.apply? image r = some next → paint r image = next
  /-- The screen keeps its size. -/
  isSized_paint : ∀ {image} r, Image.IsSized raster image → (paint r image).IsSized raster

namespace Painter

variable {raster : Raster}

/-- The pixels of a screen after all its requests, where `origin` is what was
there at first. -/
def pixels (painter : Painter raster) (origin : Image) (screen : Screen) : Image :=
  screen.requests.foldl (fun image r => painter.paint r image) origin

variable (painter : Painter raster) {origin : Image}

@[simp] theorem pixels_request (origin : Image) (screen : Screen) (r : Request) :
    painter.pixels origin (screen.request r)
      = painter.paint r (painter.pixels origin screen) := by
  simp [pixels, Screen.request]

theorem isSized_pixels (sized : origin.IsSized raster) (screen : Screen) :
    (painter.pixels origin screen).IsSized raster := by
  rw [pixels, ← Array.foldl_toList]
  induction screen.requests.toList generalizing origin with
  | nil => exact sized
  | cons r rest ih => exact ih (painter.isSized_paint r sized)

/-- **Screens that show the same answer alike**, and show the same afterwards. -/
theorem alike (a b : Image) :
    Surface.Alike raster.surface raster.surface fun s t => painter.pixels a s
      = painter.pixels b t where
  width := rfl
  height := rfl
  answers := by
    intro p s t same
    show Outcome.Agree _ (raster.draw p s) (raster.draw p t)
    rw [Raster.draw, Raster.draw]
    cases raster.plan p with
    | error fault => exact ⟨rfl, same⟩
    | ok request =>
        cases request with
        | none => exact ⟨rfl, same⟩
        | some r =>
            refine ⟨rfl, ?_⟩
            simp only [pixels_request, same]

/-- Pixels that are known are those that the painter leaves. -/
theorem alike_known (origin : Image) :
    Surface.Alike raster.surface raster.surface fun s t =>
      s = t ∧ ∀ image, s.image = some image → painter.pixels origin s = image where
  width := rfl
  height := rfl
  answers := by
    rintro p s _ ⟨rfl, known⟩
    show Outcome.Agree _ (raster.draw p s) (raster.draw p s)
    refine ⟨rfl, rfl, ?_⟩
    rw [Raster.draw]
    cases raster.plan p with
    | error fault => exact known
    | ok request =>
        cases request with
        | none => exact known
        | some r =>
            intro image painted
            obtain ⟨before, shown, applied⟩ := Option.bind_eq_some_iff.mp painted
            rw [pixels_request, known before shown]
            exact painter.paint_eq applied

/-! ## A cleared screen -/

end Painter

/-- A box over the whole screen leaves one colour. -/
theorem Image.paint_box_eq_blank {raster : Raster} {image : Image}
    (sized : image.IsSized raster) (ink : Color) :
    image.paint (.box 0 0 (raster.width - 1) (raster.height - 1)) ink
      = blank raster.width raster.height ink := by
  refine (sized.paint _ ink).ext (isSized_blank raster ink) fun x y hx hy => ?_
  obtain ⟨old, shown⟩ := sized.exists_pixel? hx hy
  have inside : (Region.box 0 0 (raster.width - 1) (raster.height - 1)).holds x y = true := by
    rw [Region.holds_box_iff]
    omega
  rw [pixel?_paint, shown, Option.map_some, if_pos inside, pixel?_blank hx hy]

/-- Filling the screen asks for one box over all of it. -/
theorem Raster.plan_screen {raster : Raster} (modest : raster.IsModest) (ink : Color) :
    raster.plan (.fillRect 0 0 raster.widthNumber raster.heightNumber ink)
      = .ok (some (.fillBox 0 0 (raster.width - 1) (raster.height - 1) ink)) := by
  have width := modest.width
  have height := modest.height
  have first : ∀ n : Nat, max (nearestPixel (.int (min 0 (0 + (n : Int))))) 0 = 0 := by
    intro n
    rw [nearestPixel_int, coordinateLimit]
    omega
  have last : ∀ n : Nat, n ≤ 1920 →
      min (nearestPixel (.int (max 0 (0 + (n : Int))))) n = n := by
    intro n small
    rw [nearestPixel_int, coordinateLimit]
    omega
  show Fault.liftNumber (raster.planFillRect (.int 0) (.int 0) (.int raster.width)
    (.int raster.height) ink) = _
  rw [planFillRect_int raster modest.screen_isWithin (by decide)]
  simp only [Rect.ofSides, Rect.toNumbers, first, last _ width.2, last _ height.2]
  rw [if_neg (by omega)]
  rfl

/-- **A cleared screen is black**, whatever it showed before. -/
theorem Painter.pixels_clear {raster : Raster} (modest : raster.IsModest)
    (painter : Painter raster) {origin : Image} (sized : origin.IsSized raster)
    (screen : Screen) :
    ∃ cleared, raster.surface.clear screen = (cleared, none) ∧
      painter.pixels origin cleared = .blank raster.width raster.height .black := by
  refine ⟨screen.request (.fillBox 0 0 (raster.width - 1) (raster.height - 1) .black), ?_, ?_⟩
  · show raster.draw (.fillRect 0 0 raster.widthNumber raster.heightNumber .black) screen = _
    rw [Raster.draw, Raster.plan_screen modest]
  · rw [pixels_request]
    have painted := Image.paint_box_eq_blank (painter.isSized_pixels sized screen) .black
    rw [← painted]
    exact painter.paint_eq rfl

/-! ## Rendering -/

namespace Sketch

/-- **Runs on surfaces that look the same report the same and look the same afterwards.** -/
theorem map_run_eq {σ τ α : Type} {first : Surface σ} {second : Surface τ} {view : σ → α}
    {view' : τ → α} (alike : Surface.Alike first second fun s t => view s = view' t) {s : σ}
    {t : τ} (same : view s = view' t) (width height : Number) (source : String) :
    (run first width height source s).map (fun m => (m.context, view m.surface))
      = (run second width height source t).map (fun m => (m.context, view' m.surface)) := by
  rw [run, run, load, load]
  cases Source.substitute width height source with
  | error fault => rfl
  | ok text =>
      have start : Machine.Matches (fun s t => view s = view' t)
          ⟨Context.create width height text, s⟩ ⟨Context.create width height text, t⟩ :=
        ⟨rfl, rfl, same⟩
      refine congrArg Except.ok (Prod.ext ?_ ?_)
      · exact runStatements_context_eq alike rfl same (statements text.toList)
      · exact (runStatements_matches alike start (statements text.toList)).surface

end Sketch

namespace Painter

variable {raster : Raster} (painter : Painter raster)

/-- What a run shows: the context, reports included, and the pixels. -/
def seen (origin : Image) (machine : Machine Screen) : Context × Image :=
  (machine.context, painter.pixels origin machine.surface)

/-- **A sketch that is rendered shows what it shows on a new screen.** -/
theorem map_render_eq (modest : raster.IsModest) {origin : Image}
    (sized : origin.IsSized raster) (screen : Screen) (width height : Number)
    (source : String) :
    (Sketch.render raster.surface width height source screen).map (painter.seen origin)
      = Fault.liftNumber ((Sketch.onRaster raster width height source).map
          (painter.seen (.blank raster.width raster.height .black))) := by
  obtain ⟨cleared, clear, black⟩ := painter.pixels_clear modest sized screen
  have shown := Sketch.map_run_eq
    (painter.alike origin (.blank raster.width raster.height .black))
    (s := cleared) (t := Screen.blank raster .black) black width height source
  change (Sketch.run raster.surface width height source cleared).map (painter.seen origin)
    = (Sketch.onRaster raster width height source).map
        (painter.seen (.blank raster.width raster.height .black)) at shown
  rw [Sketch.render, clear, ← shown]
  show (Fault.liftNumber (Sketch.run raster.surface width height source cleared)).map _ = _
  cases Sketch.run raster.surface width height source cleared <;> rfl

/-- Pixels that are known after a run are those that are seen. -/
theorem pixels_eq_of_onRaster {width height : Number} {source : String}
    {machine : Machine Screen}
    (result : Sketch.onRaster raster width height source = .ok machine) {image : Image}
    (known : machine.surface.image = some image) :
    painter.pixels (.blank raster.width raster.height .black) machine.surface = image := by
  obtain ⟨text, start, loaded, rfl⟩ := Sketch.load_of_run result
  obtain rfl := Sketch.eq_create_of_load loaded
  have start : Machine.Matches (fun s t : Screen => s = t ∧ ∀ image, s.image = some image →
        painter.pixels (.blank raster.width raster.height .black) s = image)
      ⟨Context.create width height text, Screen.blank raster .black⟩
      ⟨Context.create width height text, Screen.blank raster .black⟩ :=
    ⟨rfl, rfl, rfl, fun image shown => Option.some.inj shown⟩
  have final := Sketch.runStatements_matches
    (painter.alike_known (.blank raster.width raster.height .black)) start
    (Sketch.statements text.toList)
  exact final.surface.2 image known

/-- The painter that does what is known of requests, and no more. -/
def plain (raster : Raster) : Painter raster where
  paint r image :=
    match Request.apply? image r with
    | some next => next
    | none => image
  paint_eq applied := by rw [applied]
  isSized_paint r sized := by
    cases r with
    | fillBox left top right bottom ink => exact sized.paint _ ink
    | outlineBox left top right bottom ink => exact sized.paintAll _ ink
    | line x0 y0 x1 y1 ink => exact sized.paint _ ink
    | outlinePolygon corners ink => exact sized.paintAll _ ink
    | paint mask ink => exact sized.paint _ ink
    | _ => exact sized

end Painter

namespace Sketch

/-- **Rendering forgets the screen.**  Take any painter, any sketch, any width and height to
run it with, and two screens of one size with sides from 1 to 1920, whatever pixels they
began with and whatever has been asked of them since.  Clearing them does not fail and leaves
them black.  Rendering the sketch then gives the same on both: the same fault if it cannot be
run, and else the same context with its reports and the same pixels; and this is also what a
run on a new black screen gives, with the pixels that are known of it.  So rendering a second
time changes nothing. -/
theorem render_forgets_screen (raster : Raster) (modest : raster.IsModest)
    (painter : Painter raster) (width height : Number) (source : String) (a b : Image)
    (ha : a.IsSized raster) (hb : b.IsSized raster) (s t : Screen) :
    let new := Image.blank raster.width raster.height .black
    let shown := (render raster.surface width height source s).map (painter.seen a)
    (∃ cleared, raster.surface.clear s = (cleared, none) ∧ painter.pixels a cleared = new) ∧
      shown = (render raster.surface width height source t).map (painter.seen b) ∧
      shown = Fault.liftNumber
        ((onRaster raster width height source).map (painter.seen new)) ∧
      (∀ machine, onRaster raster width height source = .ok machine →
        ∀ image, machine.surface.image = some image →
          painter.pixels new machine.surface = image) ∧
      ∀ machine, render raster.surface width height source s = .ok machine →
        (render raster.surface width height source machine.surface).map (painter.seen a)
          = .ok (painter.seen a machine) := by
  intro new shown
  have first := painter.map_render_eq modest ha s width height source
  have second := painter.map_render_eq modest hb t width height source
  refine ⟨painter.pixels_clear modest ha s, first.trans second.symm, first, ?_, ?_⟩
  · exact fun machine result image known => painter.pixels_eq_of_onRaster result known
  · intro machine rendered
    have again := painter.map_render_eq modest ha machine.surface width height source
    rw [again, ← first, rendered]
    rfl

/-- A white screen and one of another colour, of which the first has lost count
of its pixels. -/
theorem render_forgets_screen_white :
    let raster : Raster := ⟨4, 3⟩
    let painter := Painter.plain raster
    let source := "tft.fillRect(1, 1, 2, HEIGHT, TFT_RED);"
    let a := Image.blank 4 3 .white
    let b := Image.blank 4 3 ⟨9, 8, 7⟩
    let s : Screen := ⟨none, #[]⟩
    let t := Screen.blank raster .white
    let shown := (render raster.surface (.int 4) (.int 3) source s).map (painter.seen a)
    raster.IsModest ∧ a.IsSized raster ∧ b.IsSized raster ∧ a ≠ b ∧
      shown = (render raster.surface (.int 4) (.int 3) source t).map (painter.seen b) ∧
      shown.map (fun seen => (seen.2.pixel? 0 0, seen.2.pixel? 1 1))
        = .ok (some .black, some ⟨255, 0, 0⟩) := by
  intro raster painter source a b s t shown
  have modest : raster.IsModest := ⟨by decide, by decide⟩
  have sized : a.IsSized raster := Image.isSized_blank raster .white
  have sized' : b.IsSized raster := Image.isSized_blank raster ⟨9, 8, 7⟩
  have forgets := render_forgets_screen raster modest painter (.int 4) (.int 3) source
    a b sized sized' s t
  have pixels : shown.map (fun seen => (seen.2.pixel? 0 0, seen.2.pixel? 1 1))
      = .ok (some .black, some ⟨255, 0, 0⟩) := by decide +kernel
  exact ⟨modest, sized, sized', by decide +kernel, forgets.2.1, pixels⟩

end Sketch

end SketchScreen
