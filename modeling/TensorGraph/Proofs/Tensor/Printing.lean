import Mathlib
import TensorGraph.Proofs.Tensor.Lookup
import TensorGraph.Proofs.Tensor.Slabs
import TensorGraph.Proofs.Text.Quoted
import TensorGraph.Proofs.Text.Scientific

/-!
# Printing

Printing by offset looks up no element outside the data and divides by no stride that is zero, and
its text is that of the slabs. A printed tensor shows each of its elements once, in the order of the
data, and at the coordinate that the element is looked up at. What is shown of an element is read
back from its text, real numbers as the nearest decimal.
-/

namespace TensorGraph.Proofs
open Shape

def lineText {α : Type} (text : α → String) (xs : List α) : String :=
  String.join (xs.map fun x => text x ++ " ") ++ "\n"

lemma render_slab {α : Type} (s : Shape) (text : α → String) (slab : Slab α) :
    slab.render s text = Slab.heading s slab.coordinate ++ "\n" ++
      String.join (slab.rows.map (lineText text)) := rfl

lemma mapM_range_eq_some {β : Type} {f : Nat → Option β} {n : Nat} {ys : List β}
    (hlength : ys.length = n) (h : ∀ k < n, f k = ys[k]?) : (List.range n).mapM f = some ys := by
  refine mapM_eq_some_iff.2 (List.forall₂_iff_get.2 ⟨by simp [hlength], fun k hk hk' => ?_⟩)
  rw [List.get_eq_getElem, List.get_eq_getElem, List.getElem_range, h k (hlength ▸ hk'),
    List.getElem?_eq_getElem hk']

lemma rowText?_eq (t : Tensor) {start cols : Nat} (h : start + cols ≤ t.data.length) :
    t.rowText? start cols = some (lineText t.type.text ((t.data.drop start).take cols)) := by
  have helements : ((List.range cols).mapM fun c => t.elementText? (start + c)) =
      some (((t.data.drop start).take cols).map fun x => t.type.text x ++ " ") := by
    apply mapM_range_eq_some
    · rw [List.length_map, length_take_drop h]
    · intro c hc
      rw [List.getElem?_map, List.getElem?_take_of_lt hc, List.getElem?_drop, Tensor.elementText?]
  rw [Tensor.rowText?, helements]
  rfl

/-- No look-up leaves the data if the matrix lies within them. -/
theorem matrixText?_eq (t : Tensor) {start rows cols : Nat}
    (h : start + rows * cols ≤ t.data.length) : t.matrixText? start rows cols =
      some (String.join ((pieces cols rows ((t.data.drop start).take (rows * cols))).map
        (lineText t.type.text))) := by
  have hlines : ((List.range rows).mapM fun r => t.rowText? (start + r * cols) cols) =
      some ((pieces cols rows ((t.data.drop start).take (rows * cols))).map
        (lineText t.type.text)) := by
    apply mapM_range_eq_some
    · rw [List.length_map, length_pieces]
    · intro r hr
      have hrow : r * cols + cols ≤ rows * cols := by
        rw [← Nat.succ_mul]
        exact Nat.mul_le_mul_right _ hr
      have hwidth : min cols (rows * cols - r * cols) = cols := by omega
      rw [List.getElem?_map, getElem?_pieces _ _ hr, List.drop_take, List.take_take, hwidth,
        List.drop_drop, rowText?_eq t (by omega), Option.map_some]
  rw [Tensor.matrixText?, hlines]
  rfl

section Print

variable {t : Tensor} (hdata : t.data.length = t.shape.numElements)
include hdata

/-- A tensor without numbered matrices is one matrix under its heading. -/
lemma matrixText?_of_single {rows cols : Nat} (h : Layout t.shape [] rows cols) :
    (t.matrixText? 0 rows cols).map (Slab.heading t.shape [] ++ "\n" ++ ·) = some t.render := by
  have hslabs : t.slabs = [⟨[], pieces cols rows (t.data.take (rows * cols))⟩] := by
    rw [Tensor.slabs, Shape.slabs, h.matrices_eq]
    rfl
  have hle : 0 + rows * cols ≤ t.data.length := by
    rw [hdata, h.numElements_eq, Nat.zero_add]
    exact (Nat.one_mul _).symm.le
  rw [matrixText?_eq t hle, Tensor.render, hslabs]
  simp [render_slab]

/-- The number of a matrix gives its coordinate back, and the start of its elements. -/
lemma slabText?_eq {batch : Shape} {rows cols : Nat} (h : Layout t.shape batch rows cols)
    (hbatch : batch ≠ []) {k : Nat} (hk : k < batch.numElements) :
    t.slabText? batch.strides rows cols k =
      t.slabs[k]?.map (Slab.render t.shape t.type.text) := by
  obtain ⟨w, hw⟩ : ∃ w, batch.coordinates[k]? = some w :=
    ⟨_, List.getElem?_eq_getElem (by rwa [length_coordinates])⟩
  have hstart : k * rows * cols = k * (rows * cols) := Nat.mul_assoc _ _ _
  rw [Tensor.slabText?, Tensor.slabs, h.getElem?_slabs, coordinate?_strides hk, hw, hstart,
    matrixText?_eq t (h.matrix_le hdata hk), Option.map_some, Option.map_some, render_slab,
    h.heading_eq hbatch (List.mem_of_getElem? hw)]
  rfl

lemma print?_stacked {batch : Shape} {rows cols : Nat} (hshape : t.shape = batch ++ [rows, cols])
    (hbatch : batch ≠ []) : t.print? = some t.render := by
  have hlayout : Layout t.shape batch rows cols := hshape ▸ .stacked batch rows cols
  have hrank : ∀ s, t.shape = s → batch.length + 2 = s.length := by
    rintro s rfl
    rw [hshape, List.length_append]
    rfl
  obtain ⟨size, inner, rfl⟩ := List.exists_cons_of_ne_nil hbatch
  have hcount : List.headD (size :: inner) 0 * (strides (size :: inner)).headD 0 =
      numElements (size :: inner) := rfl
  have hslabs : (List.range (numElements (size :: inner))).mapM
      (t.slabText? (strides (size :: inner)) rows cols) =
      some (t.slabs.map (Slab.render t.shape t.type.text)) := by
    apply mapM_range_eq_some
    · rw [List.length_map, ← length_coordinates, ← hlayout.map_coordinate_slabs t.data,
        List.length_map]
      rfl
    · intro k hk
      rw [List.getElem?_map, slabText?_eq hdata hlayout hbatch hk]
  rw [Tensor.print?]
  split
  · rename_i hs
    exact absurd (hrank _ hs) (by simp)
  · rename_i hs
    exact absurd (hrank _ hs) (by simp)
  · rename_i hs
    exact absurd (hrank _ hs) (by simp)
  · rw [hlayout.matrices_eq]
    simp only [outwardStrides_cons, hcount, hslabs]
    rfl

/-- Printing by offset never fails, and the text is that of the slabs. -/
theorem print?_eq_render : t.print? = some t.render := by
  obtain ⟨batch, rows, cols, h⟩ := exists_layout t.shape
  obtain ⟨type, s, data⟩ := t
  cases h with
  | scalar => exact matrixText?_of_single hdata .scalar
  | vector length => exact matrixText?_of_single hdata (.vector _)
  | stacked =>
    by_cases hbatch : batch = []
    · subst hbatch
      have hsingle : (Tensor.matrixText? ⟨type, [rows, cols], data⟩ 0 rows cols).map
          (Slab.heading [rows, cols] [] ++ "\n" ++ ·) =
          some (Tensor.render ⟨type, [rows, cols], data⟩) :=
        matrixText?_of_single hdata (.stacked [] rows cols)
      rw [heading_matrix] at hsingle
      exact hsingle
    · exact print?_stacked hdata rfl hbatch

end Print

/-! ### The text of an element -/

/-- The text shows the element: integers and truth values as they are, texts in quotes and without
hidden characters, and real numbers by four digits. The imaginary part of a complex number starts
with its sign. -/
def ShowsElement : (type : ElementType) → type.Element → String → Prop
  | .int32, v, text => SpellsInteger v.toInt text
  | .int64, v, text => SpellsInteger v.toInt text
  | .float32, x, text => ShowsReal 3 "" x text
  | .float64, x, text => ShowsReal 3 "" x text
  | .string, s, text =>
    Text.unquote? text = some s ∧ ∀ c ∈ text.toList, Text.isHidden c = false
  | .bool, b, text => (text = "true" ↔ b = true) ∧ (text = "false" ↔ b = false)
  | .complex128, z, text =>
    ∃ re im, text = re ++ im ++ "i" ∧ ShowsReal 3 "" z.re re ∧ ShowsReal 3 "+" z.im im

theorem showsElement_text : ∀ (type : ElementType) (x : type.Element),
    ShowsElement type x (type.text x)
  | .int32, v => spellsInteger_toString v.toInt
  | .int64, v => spellsInteger_toString v.toInt
  | .float32, x => showsReal_render realStyle x
  | .float64, x => showsReal_render realStyle x
  | .string, s => ⟨unquote?_quote s, fun _ => not_isHidden_of_mem_quote⟩
  | .bool, b => by cases b <;> simp [ShowsElement, ElementType.text]
  | .complex128, z =>
    ⟨_, _, rfl, showsReal_render realStyle z.re, showsReal_render imaginaryStyle z.im⟩

/-! ### The printed tensor -/

/-- What is printed of a tensor: the axes `batch` number matrices of `rows` rows and `cols`
columns. -/
structure PrintLaws (t : Tensor) (batch : Shape) (rows cols : Nat) : Prop where
  layout : Layout t.shape batch rows cols
  printed : t.print? = some t.render
  text : t.render = String.join (t.slabs.map fun slab =>
    Slab.heading t.shape slab.coordinate ++ "\n" ++
      String.join (slab.rows.map (lineText t.type.text)))
  shown : ∀ x, ShowsElement t.type x (t.type.text x)
  heading : batch ≠ [] → ∀ slab ∈ t.slabs, Slab.heading t.shape slab.coordinate =
    s!"<{rows}x{cols}>" ++ Irregularity.bracketed slab.coordinate
  count : t.slabs.length = batch.numElements
  coordinates : ∀ w, w ∈ t.slabs.map Slab.coordinate ↔ List.Forall₂ (· < ·) w batch
  lexicographic : (t.slabs.map Slab.coordinate).Pairwise (· < ·)
  height : ∀ slab ∈ t.slabs, slab.rows.length = rows
  width : ∀ slab ∈ t.slabs, ∀ row ∈ slab.rows, row.length = cols
  element : ∀ slab ∈ t.slabs, ∀ (r c : Nat) row x, slab.rows[r]? = some row → row[c]? = some x →
    t.get (printedIndex t.shape slab.coordinate r c) = .ok (t.type.load x)
  order : t.slabs.flatMap (fun slab => slab.rows.flatten) = t.data

/-- Every tensor that is built from a literal is printed, each element once and at its own
coordinate, by a text that shows it. -/
theorem printLaws_ofLiteral {literal : Literal} {type? : Option ElementType} {t : Tensor}
    (h : Tensor.ofLiteral literal type? = .ok t) :
    ∃ batch rows cols, PrintLaws t batch rows cols := by
  have hdata := length_data h
  obtain ⟨batch, rows, cols, hlayout⟩ := exists_layout t.shape
  have hcoordinates : t.slabs.map Slab.coordinate = batch.coordinates :=
    hlayout.map_coordinate_slabs t.data
  refine ⟨batch, rows, cols, ?_⟩
  constructor
  case layout => exact hlayout
  case printed => exact print?_eq_render hdata
  case text => rfl
  case shown => exact showsElement_text t.type
  case heading =>
    intro hbatch slab hslab
    obtain ⟨k, -, hw, -⟩ := hlayout.exists_number hslab
    exact hlayout.heading_eq hbatch (List.mem_of_getElem? hw)
  case count => rw [← List.length_map Slab.coordinate, hcoordinates, length_coordinates]
  case coordinates =>
    intro w
    rw [hcoordinates, mem_coordinates_iff]
  case lexicographic =>
    rw [hcoordinates]
    exact pairwise_coordinates batch
  case height =>
    intro slab hslab
    obtain ⟨k, -, -, hrows⟩ := hlayout.exists_number hslab
    rw [hrows, length_pieces]
  case width =>
    intro slab hslab
    obtain ⟨k, hk, -, hrows⟩ := hlayout.exists_number hslab
    rw [hrows]
    exact length_of_mem_pieces (hlayout.length_matrix hdata hk)
  case element =>
    intro slab hslab r c row x hrow hx
    obtain ⟨k, hk, hw, hrows⟩ := hlayout.exists_number hslab
    rw [hrows] at hrow
    obtain ⟨hr, hc, hmatrix⟩ := getElem?_of_getElem?_pieces hrow hx
    refine (get_eq_ok_iff _ _ _).2 ⟨_, hlayout.offset_printedIndex hw hr hc, ?_⟩
    rw [Tensor.at?, (getElem?_of_take_drop hmatrix).2]
    rfl
  case order => exact hlayout.flatMap_slabs hdata

/-- Two by three matrices of one row, with two integers each. -/
def rowPairs : Literal :=
  .sequence ([0, 3].map fun i => .sequence ([0, 1, 2].map fun j =>
    .sequence [.sequence [.scalar (.integer (i + j)), .scalar (.integer (-(i + j)))]]))

theorem printLaws_rowPairs : ∃ t, Tensor.ofLiteral rowPairs none = .ok t ∧
    t.shape = [2, 3, 1, 2] ∧ PrintLaws t [2, 3] 1 2 := by
  obtain ⟨t, ht, hshape⟩ : ∃ t, Tensor.ofLiteral rowPairs none = .ok t ∧ t.shape = [2, 3, 1, 2] :=
    ⟨_, rfl, rfl⟩
  obtain ⟨batch, rows, cols, hlaws⟩ := printLaws_ofLiteral ht
  have hmatrices := hlaws.layout.matrices_eq
  rw [hshape] at hmatrices
  cases hmatrices
  exact ⟨t, ht, hshape, hlaws⟩

end TensorGraph.Proofs
