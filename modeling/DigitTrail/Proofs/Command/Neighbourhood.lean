import DigitTrail.Command.Batch
import DigitTrail.Proofs.Command.Window
import DigitTrail.Proofs.Walk.Cursor

/-!
The shape of a window, and where a run has one. A window is laid out in rows of cells three
characters wide, and each of its lines is one row without the spaces at its end, although the
spaces are dropped from all that is written so far. All this is so if the limits of the window
are integers of sixty-four bits. If one of them is not, it overflows and there is no window. A run
starts in the cell of its box that is nearest to the origin and from then on stands on digits of its
source, so the box decides whether its windows have room.
-/

set_option autoImplicit false
set_option relaxedAutoImplicit false

namespace DigitTrail.Command

open Plane (Box Position)
open Program (Event Footing Input Machine)

/-- A line is a row without the spaces that end it. -/
structure Trims (row line : List Char) : Prop where
  spaces : ∃ n, row = line ++ List.replicate n ' '
  ended : line.getLast? ≠ some ' '

/-! ### Lines and rows -/

private theorem trims_rdropWhile (row : List Char) : Trims row (row.rdropWhile (· = ' ')) where
  spaces := by
    refine ⟨(row.rtakeWhile (· = ' ')).length, ?_⟩
    have blank : row.rtakeWhile (· = ' ') =
        List.replicate (row.rtakeWhile (· = ' ')).length ' ' := by
      rw [List.eq_replicate_iff]
      refine ⟨rfl, ?_⟩
      intro c member
      simpa using List.mem_rtakeWhile_imp member
    rw [← blank]
    exact List.rdropWhile_append_rtakeWhile.symm
  ended := by
    intro last
    have nonempty : row.rdropWhile (· = ' ') ≠ [] := by
      intro empty
      rw [empty] at last
      cases last
    have kept := List.rdropWhile_last_not (· = ' ') row nonempty
    rw [List.getLast?_eq_some_getLast nonempty] at last
    simp [Option.some.inj last] at kept

/-- A window whose limits are integers of sixty-four bits has one line more than twice its radius,
each ended by a line feed. Each line is the row that is laid out there without the spaces at its
end, whatever the rows before it end in, and the middle line has the brackets of the cursor after
three characters for each column on their left. -/
theorem window_is_made_of_trimmed_rows (source : String) {cursor : Position} {radius : Nat}
    (room : HasRoom cursor radius) :
    let page := Page.ofText source
    ∃ (text : String) (lines : List (List Char)), window page cursor radius = .ok text ∧
      text.toList = lines.flatMap (fun line => line ++ ['\n']) ∧
      lines.length = 2 * radius + 1 ∧ (∀ line ∈ lines, '\n' ∉ line) ∧
      (∀ j line, lines[j]? = some line → Trims (layoutRow page cursor radius j) line) ∧
      (lines[radius]?).map (fun line => (line.drop (6 * radius)).take 3) =
        some ['[', page.char cursor.x.toInt cursor.y.toInt, ']'] := by
  intro page
  refine ⟨_, trimmedRows page cursor radius, window_of_room page room, String.toList_ofList,
    by simp [trimmedRows], ?_, ?_, getElem?_trimmedRows_middle page cursor radius⟩
  · intro line member
    exact not_mem_trimmedRows (char_ofText_ne_feed source) member
  · intro j line found
    unfold trimmedRows at found
    rw [List.getElem?_map, Option.map_eq_some_iff] at found
    obtain ⟨row, place, rfl⟩ := found
    obtain ⟨_, same⟩ := List.getElem?_eq_some_iff.mp place
    rw [← same, List.getElem_range]
    exact trims_rdropWhile _

/-- A window in a corner of the plane, whose limits are the last column and the first row. -/
theorem window_in_a_corner_is_trimmed :
    let cursor : Position := ⟨Int64.maxValue - 2, Int64.minValue + 1⟩
    HasRoom cursor 1 ∧ window (Page.ofText "3") cursor 1 = .ok "\n      [ ]\n\n" ∧
    ∃ (text : String) (lines : List (List Char)), window (Page.ofText "3") cursor 1 = .ok text ∧
      text.toList = lines.flatMap (fun line => line ++ ['\n']) ∧ lines.length = 3 ∧
      (lines[1]?).map (fun line => (line.drop 6).take 3) = some ['[', ' ', ']'] := by
  intro cursor
  have room : HasRoom cursor 1 := by constructor <;> decide
  have outside : (Page.ofText "3").char cursor.x.toInt cursor.y.toInt = ' ' := by decide +kernel
  obtain ⟨text, lines, drawn, written, count, _, _, middle⟩ :=
    window_is_made_of_trimmed_rows "3" room
  rw [outside] at middle
  exact ⟨room, by decide +kernel, text, lines, drawn, written, count, middle⟩

/-! ### The room that a box leaves -/

def Settings.box (s : Settings) : Box :=
  match s.corners with
  | some (a, b) => .spanning a b
  | none => .standard

/-- A box reaches the columns and the rows in which no limit of a window overflows. -/
structure LeavesRoom (b : Box) (radius : Nat) : Prop where
  above : Int64.minValue.toInt ≤ b.hi.y.toInt - radius
  below : b.lo.y.toInt + radius ≤ Int64.maxValue.toInt
  left : Int64.minValue.toInt ≤ b.hi.x.toInt - (2 * radius : Nat)
  right : b.lo.x.toInt + (2 * radius : Nat) ≤ Int64.maxValue.toInt

/-- Wherever a program gets to in its box, a window of this radius has room there. -/
def RunHasRoom {ε : Type} [Entropy ε] (m : Machine ε) (radius : Nat) : Prop :=
  ∀ events : List (Event ε), (∀ e ∈ events, e.encloses = false) →
    HasRoom (m.after events).walker.cursor.position radius

section Room

variable {radius : Nat}

private theorem Settings.ordered_box (s : Settings) : s.box.Ordered := by
  unfold box
  split
  · exact Box.ordered_spanning _ _
  · decide

private theorem footing_machineFor {ε : Type} (s : Settings) (r : Reference) (source : String)
    (entropy : ε) (input : Input) :
    (machineFor s r source entropy input).footing.sheet = .ofText source ∧
      (machineFor s r source entropy input).footing.box = s.box ∧
      (machineFor s r source entropy input).footing.position = s.box.nearest .origin := by
  unfold machineFor Settings.box
  cases s.corners with
  | none => exact ⟨rfl, rfl, rfl⟩
  | some corners => exact ⟨rfl, rfl, rfl⟩

private theorem toInt_within_zero {lo hi : Int64} (ordered : lo ≤ hi) (reach : Nat)
    (few : reach < Nat.pow 2 62) :
    (Int64.minValue.toInt ≤ (Box.within lo hi 0).toInt - reach ∧
        (Box.within lo hi 0).toInt + reach ≤ Int64.maxValue.toInt) ↔
      Int64.minValue.toInt ≤ hi.toInt - reach ∧ lo.toInt + reach ≤ Int64.maxValue.toInt := by
  have limit : Nat.pow 2 62 = 4611686018427387904 := rfl
  have zero : (0 : Int64).toInt = 0 := rfl
  rw [Int64.le_iff_toInt_le] at ordered
  rw [Number.toInt_minValue, Number.toInt_maxValue]
  unfold Box.within
  split
  · rename_i positive
    rw [Int64.lt_iff_toInt_lt] at positive
    omega
  · rename_i low
    rw [Int64.not_lt, Int64.le_iff_toInt_le] at low
    split
    · rename_i negative
      rw [Int64.lt_iff_toInt_lt] at negative
      omega
    · rename_i high
      rw [Int64.not_lt, Int64.le_iff_toInt_le] at high
      omega

private theorem hasRoom_nearest_iff {b : Box} (ordered : b.Ordered)
    (narrow : radius < UInt32.size) :
    HasRoom (b.nearest .origin) radius ↔ LeavesRoom b radius := by
  have limit : Nat.pow 2 62 = 4611686018427387904 := rfl
  have size : UInt32.size = 4294967296 := rfl
  have rows := toInt_within_zero ordered.2 radius (by omega)
  have columns := toInt_within_zero ordered.1 (2 * radius) (by omega)
  constructor
  · intro room
    obtain ⟨above, below⟩ := rows.mp ⟨room.above, room.below⟩
    obtain ⟨left, right⟩ := columns.mp ⟨room.left, room.right⟩
    exact ⟨above, below, left, right⟩
  · intro leaves
    obtain ⟨above, below⟩ := rows.mpr ⟨leaves.above, leaves.below⟩
    obtain ⟨left, right⟩ := columns.mpr ⟨leaves.left, leaves.right⟩
    exact ⟨above, below, left, right⟩

private theorem hasRoom_of_path {source : String}
    (short : source.length + 2 * radius < Nat.pow 2 63)
    {p : Position} {d : Digit} (cell : (Sheet.ofText source).cell p = .path d) :
    HasRoom p radius := by
  have written : (Sheet.ofText source).cell p ≠ .blank := by
    rw [cell]
    exact nofun
  obtain ⟨x, y, line, c, column, row, found, scanned, _⟩ := exists_scannedLine_of_cell written
  obtain ⟨wide, tall⟩ := le_length_of_scannedLine found scanned
  have limit : Nat.pow 2 63 = 9223372036854775808 := rfl
  have least := Number.toInt_minValue
  have most := Number.toInt_maxValue
  constructor <;> omega

end Room

/-- There is a window, and it shows the cursor, exactly if none of its limits leaves the integers
of sixty-four bits; else a limit overflows. A run has such windows throughout if every cell of its
box leaves room for them. On a source that is not too long it has them exactly if some cell of its
box does, for the run starts in the cell nearest to the origin and stands on digits of the source
from then on. -/
theorem windows_show_cursor_iff_box_leaves_room {ε : Type} [Entropy ε] (s : Settings)
    (r : Reference) (source : String) (entropy : ε) (input : Input) {radius : Nat}
    (narrow : radius < UInt32.size) :
    let m := machineFor s r source entropy input
    (∀ cursor, (∃ text, window (Page.ofText source) cursor radius = .ok text ∧
        middle? radius text =
          some ['[', (Page.ofText source).char cursor.x.toInt cursor.y.toInt, ']']) ↔
      HasRoom cursor radius) ∧
    (∀ cursor, (∃ cause, window (Page.ofText source) cursor radius = .error cause) ↔
      ¬ HasRoom cursor radius) ∧
    ((∀ p, s.box.contains p = true → HasRoom p radius) → RunHasRoom m radius) ∧
    (source.length + 2 * radius < Nat.pow 2 63 →
      (RunHasRoom m radius ↔ LeavesRoom s.box radius)) := by
  intro m
  obtain ⟨sheet, box, start⟩ := footing_machineFor s r source entropy input
  refine ⟨?_, fun cursor => window_overflows_iff _ cursor radius, ?_, ?_⟩
  · intro cursor
    constructor
    · rintro ⟨text, drawn, _⟩
      by_contra outside
      obtain ⟨cause, overflows⟩ := window_of_overflow (Page.ofText source) outside
      rw [overflows] at drawn
      cases drawn
    · exact middle?_of_room (char_ofText_ne_feed source)
  · intro roomy events fixed
    apply roomy
    rcases m.position_after_cases fixed with stays | ⟨inside, _⟩
    · change s.box.contains (m.after events).footing.position = true
      rw [stays, start]
      exact Box.contains_nearest s.ordered_box .origin
    · rw [← box]
      exact inside
  · intro short
    constructor
    · intro roomy
      rw [← hasRoom_nearest_iff s.ordered_box narrow, ← start]
      exact roomy [] nofun
    · intro leaves events fixed
      rcases m.position_after_cases fixed with stays | ⟨_, d, cell⟩
      · change HasRoom (m.after events).footing.position radius
        rw [stays, start]
        exact (hasRoom_nearest_iff s.ordered_box narrow).mpr leaves
      · rw [sheet] at cell
        exact hasRoom_of_path short cell

/-- A box to the left of the origin whose last column leaves just enough room. -/
theorem windows_show_cursor_at_the_left_end :
    let corners : Position × Position := (⟨Int64.minValue, 7⟩, ⟨Int64.minValue + 2, -7⟩)
    let s : Settings := ⟨none, some 1, false, none, some corners⟩
    let m := machineFor s ⟨#[some 3, some 1]⟩ "3 1" (⟨[]⟩ : Entropy.Script) .closed
    1 < UInt32.size ∧ LeavesRoom s.box 1 ∧ RunHasRoom m 1 ∧ ¬ HasRoom corners.1 1 := by
  intro corners s m
  have narrow : 1 < UInt32.size := by decide
  have leaves : LeavesRoom s.box 1 := by constructor <;> decide
  obtain ⟨_, _, _, exactly⟩ := windows_show_cursor_iff_box_leaves_room s ⟨#[some 3, some 1]⟩ "3 1"
    (⟨[]⟩ : Entropy.Script) .closed narrow
  refine ⟨narrow, leaves, (exactly (by decide)).mpr leaves, ?_⟩
  intro room
  exact absurd room.left (by decide)

/-- A configuration may put the box of a run into the last row there is. The program then crashes
at once, as it should, but the command ends with an overflow before it can report that. -/
theorem window_overflows_in_the_last_row :
    let document := "[run]\nbounds = [\x7b x = 0, y = 9223372036854775807 \x7d, " ++
      "\x7b x = 0, y = 9223372036854775807 \x7d]\n"
    let around : Surroundings := ⟨⟨[(["p"], "31".toUTF8), (["a"], "3".toUTF8),
      (["home", ".piwalk", "config.toml"], document.toUTF8)], []⟩, [],
      fun name => if name = "HOME" then some "/home" else none, "".toUTF8⟩
    ¬ HasRoom ⟨0, Int64.maxValue⟩ 1 ∧
    window (Page.ofText "3") ⟨0, Int64.maxValue⟩ 1 = .error .sum ∧
    command 1 ["-v1", "-pip", "a"] around (⟨[]⟩ : Entropy.Script) =
      ⟨101, "", "attempt to add with overflow\n", .home⟩ ∧
    (command 1 ["-pip", "a"] around (⟨[]⟩ : Entropy.Script)).err =
      "\nCrashed at (1,9223372036854775807); could not find 1\n" := by
  intro document around
  refine ⟨?_, by decide +kernel, by decide +kernel, by decide +kernel⟩
  intro room
  exact absurd room.below (by decide)

end DigitTrail.Command
