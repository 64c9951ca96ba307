import Docwright.Proofs.Replay.Origins
import Docwright.Proofs.Template.Batch

namespace Docwright.Template

open Edit Replay

/-- An accepted template compiles at any position, and every range edit of its batch, one for each
format of its title, headings, texts and lists, covers in the end exactly what the insertion of that
text has brought: all of it with its line ends, no mark of a table, and none of another text. -/
theorem formats_cover_own_text (lay : Nat → Layout) {v : Json} {t : Template}
    (accepted : Template.ofJson v = .ok t) (old : List Content) (start : Int) (first : 1 ≤ start)
    (last : start ≤ old.length + 1) :
    ∃ c final, t.compile start = .ok c ∧ replay lay c.operations old = some final ∧
      List.Forall₂ (SetsAll c.operations start final) (rangeEdits 0 c.operations)
        (targets 0 (passages t)) := by
  have proper := proper_of_ofJson accepted
  have whole := whole_passages proper
  obtain ⟨warnings, compiled⟩ := compile_eq_batch proper first
  exact ⟨_, _, compiled, replay_batch lay first last (fits_passages proper),
    setsAll_batch lay first last whole⟩

/-- Tables between and behind styled content, one of its characters two units wide. -/
def interleaved : Json :=
  let table : Json := .obj [("type", .str "table"), ("rows", .num (.int 1)), ("columns", .num (.int 2))]
  .obj [("title", .obj [("text", .str "T"), ("style", .obj [("italic", .bool true)])]),
    ("sections", .arr [.obj [("heading", .str "H"), ("content", .arr [table,
      .obj [("type", .str "text"), ("text", .str "𝔸"),
        ("style", .obj [("bold", .bool true), ("alignment", .str "center")])]])]]),
    ("elements", .arr [table, .obj [("type", .str "pagebreak")],
      .obj [("type", .str "list"), ("list_type", .str "bullet"), ("items", .arr [.str "a", .str "b"]),
        ("indent", .num (.int 1))]])]

def wideLayout (n : Nat) : Layout :=
  ⟨n + 3, [[some 2, some 4]]⟩

theorem interleaved_accepted :
    ∃ t, Template.ofJson interleaved = .ok t ∧ (targets 0 (passages t)).length = 7 :=
  ⟨_, by with_unfolding_all rfl, rfl⟩

theorem interleaved_formats_cover_own_text : ∃ t c final, Template.ofJson interleaved = .ok t ∧
    (targets 0 (passages t)).length = 7 ∧ t.compile 2 = .ok c ∧
    replay wideLayout c.operations [.unit 72, .unit 10] = some final ∧
    List.Forall₂ (SetsAll c.operations 2 final) (rangeEdits 0 c.operations)
      (targets 0 (passages t)) := by
  obtain ⟨t, accepted, seven⟩ := interleaved_accepted
  obtain ⟨c, final, compiled, replayed, covered⟩ := formats_cover_own_text wideLayout accepted
    [.unit 72, .unit 10] 2 (by decide) (by decide)
  exact ⟨t, c, final, accepted, seven, compiled, replayed, covered⟩

end Docwright.Template
