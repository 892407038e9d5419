import SoapStubs.Proofs.Lines
import SoapStubs.Proofs.Manifest
import SoapStubs.Proofs.Persist

/-!
# The list of generated types and what is read from it

Identifiers are written as they are, one on a line, so that one that is empty, has a blank at its
end or a line end in it is not read as it was written.  No other identifier is lost.

* `Manifest.Listable` texts can stand on a line of their own;
* `Manifest.listable_of_mem_listed`: nothing else is ever read, whatever the text;
* `Manifest.listed_toLines`: identifiers of that kind are read as they were written;
* `ofLines_toLines_same_iff`: a manifest is read back exactly if all its identifiers are of that
  kind, from the text as well as from the file.
-/

namespace SoapStubs

namespace Manifest

variable {m : Manifest}

/-- Can the text stand on a line of its own? -/
structure Listable (s : String) : Prop where
  /-- It is not empty. -/
  nonempty : s ≠ ""
  /-- No blank is at its ends. -/
  trimmed : Text.Trimmed Text.isBlank s.toList
  /-- No line ends in it. -/
  unbroken : Text.Unbroken s.toList

instance (s : String) : Decidable (Listable s) :=
  decidable_of_iff
    (s ≠ "" ∧ Text.Trimmed Text.isBlank s.toList ∧ Text.Unbroken s.toList)
    ⟨fun h => ⟨h.1, h.2.1, h.2.2⟩, fun h => ⟨h.nonempty, h.trimmed, h.unbroken⟩⟩

/-- Only what can stand on a line is read from a text. -/
theorem listable_of_mem_listed {text s : String} (h : s ∈ listed text) : Listable s := by
  obtain ⟨hline, hne⟩ := List.mem_filter.1 h
  obtain ⟨line, hmem, rfl⟩ := List.mem_map.1 hline
  exact ⟨by simpa using hne, Text.trimmed_strip line,
    Text.unbroken_strip (Text.unbroken_of_mem_lines hmem)⟩

/-- Identifiers that can stand on a line are read as they were written. -/
theorem listed_toLines (h : ∀ i ∈ m.identifiers, Listable i) :
    listed m.toLines = m.identifiers := by
  have hstrip : m.identifiers.map Text.strip = m.identifiers := by
    conv_rhs => rw [← List.map_id m.identifiers]
    exact List.map_congr_left fun i hi => Text.strip_of_trimmed (h i hi).trimmed
  rw [listed, toLines, Text.lines_concat fun i hi => (h i hi).unbroken, hstrip,
    List.filter_eq_self]
  intro i hi
  simpa using (h i hi).nonempty

/-- A text always lists a manifest. -/
theorem ofLines_eq (text : String) :
    ∃ n, ofLines text = .ok n ∧ n.identifiers = (listed text).eraseDups :=
  ofList_eq (listed text)

/-- Reading the text from a file changes nothing. -/
theorem ofLines_unifyNewlines (text : String) :
    ofLines (Text.unifyNewlines text) = ofLines text := by
  rw [ofLines, ofLines, listed, listed, Text.lines_unifyNewlines]

/-- **What is read is the manifest exactly if its identifiers can stand on a line.** -/
theorem same_iff_listable (hm : m.identifiers.Nodup) {n : Manifest}
    (hn : n.identifiers = (listed m.toLines).eraseDups) :
    n.same m = true ↔ ∀ i ∈ m.identifiers, Listable i := by
  rw [same, beq_iff_eq, hn]
  constructor
  · intro h i hi
    rw [← h, List.mem_eraseDups] at hi
    exact listable_of_mem_listed hi
  · intro h
    rw [listed_toLines h, eraseDups_identifiers hm]

end Manifest

namespace Metadata

open FileTree

variable {chance : Chance} {t t' : FileTree} {q : Request} {events : List Event} {f : Files}
  {m : Manifest}

/-- What is read from the file is what the text of the manifest lists. -/
theorem loadManifest_persist (law : chance.Lawful) (hq : q.manifest = some m)
    (hp : persist chance t q = (t', ⟨events, .ok f⟩)) :
    loadManifest t' f.types = Manifest.ofLines m.toLines := by
  obtain ⟨r, hr⟩ : ∃ r, q.registry = some r := by
    cases hr : q.registry with
    | none => simp [persist, hq, hr, Logged.lift] at hp
    | some r => exact ⟨r, rfl⟩
  obtain ⟨rfl, hwritten⟩ := persist_written (f := f) hq hr law (by rw [hp])
  rw [hp] at hwritten
  have htext : t'.readText q.files.types = .ok (Text.unifyNewlines m.toLines) := by
    rw [readText, hwritten.types, ok_bind]
  simp only [loadManifest, htext, Except.mapError, ok_bind]
  exact Manifest.ofLines_unifyNewlines m.toLines

end Metadata

open Metadata

/-- **The list of generated types is read back exactly if every identifier can stand on a line.**
For whatever was done to a manifest, reading its text does not fail, and the manifest that is read
has the same identifiers in the same order if and only if none of them is empty, has a blank at an
end or a line end in it.  The file that is written for the manifest gives the same one. -/
theorem ofLines_toLines_same_iff (commands : List Manifest.Command) :
    ∃ n, Manifest.ofLines (Manifest.follow {} commands).toLines = .ok n ∧
      (n.same (Manifest.follow {} commands) = true ↔
        ∀ i ∈ (Manifest.follow {} commands).identifiers, Manifest.Listable i) ∧
      ∀ (chance : Chance) (t t' : FileTree) (q : Request) (events : List Event) (f : Files),
        chance.Lawful → q.manifest = some (Manifest.follow {} commands) →
          persist chance t q = (t', ⟨events, .ok f⟩) → loadManifest t' f.types = .ok n := by
  obtain ⟨n, hn, hids⟩ := Manifest.ofLines_eq (Manifest.follow {} commands).toLines
  have hnodup : (Manifest.follow {} commands).identifiers.Nodup :=
    Manifest.nodup_follow (m := {}) List.nodup_nil commands
  refine ⟨n, hn, Manifest.same_iff_listable hnodup hids, ?_⟩
  intro chance t t' q events f law hq hp
  rw [loadManifest_persist law hq hp, hn]

-- an identifier with a line end in it is read as two, and one with a blank at its end without it
example : Manifest.listed (Manifest.follow {} [.add "a\u2028b" none, .add " c" none]).toLines =
    ["a", "b", "c"] := by decide +kernel

/-- A type that is declared again, from another name, beside one with a blank inside. -/
def declaredTwice : List Manifest.Command :=
  [.add "a.B" (some "A.B"), .add "a.é c" none, .add "a.B" none, .freeze]

/-- Types declared twice and with blanks inside are read back from the file. -/
theorem ofLines_toLines_same_iff_declaredTwice :
    let m := Manifest.follow {} declaredTwice
    let q : Request := ⟨some m, some .empty, ⟨"", []⟩, "run", none⟩
    ∃ n, loadManifest (persist .none {} q).1 q.files.types = .ok n ∧ n.same m = true := by
  intro m q
  have hlist : ∀ i ∈ m.identifiers, Manifest.Listable i := by decide +kernel
  have hok : (persist .none {} q).2.result = .ok q.files := persist_succeeds_empty rfl
  obtain ⟨n, -, hsame, hload⟩ := ofLines_toLines_same_iff declaredTwice
  exact ⟨n, hload .none {} _ q _ _ (.of_beside rfl) rfl
    (Prod.ext rfl (congrArg (Logged.mk _) hok)), hsame.2 hlist⟩

end SoapStubs
