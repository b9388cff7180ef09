import LinePalette.Proofs.Host.Sessions
import Mathlib.Data.List.Forall2

/-!
# Line endings

A line of input ends with a newline, and carriage returns in front of the newline are no
part of the line either.  So it makes no difference to a session which of the newlines of
its input follow a carriage return.
-/

namespace LinePalette
namespace Host

/-!
# Inputs that differ in their line endings
-/

/-- The second input is the first one with a carriage return put in front of some newlines. -/
inductive Reended : Bytes -> Bytes -> Prop where
  | nil : Reended [] []
  | keep (byte : UInt8) {input other : Bytes} :
      Reended input other -> Reended (byte :: input) (byte :: other)
  | widen {input other : Bytes} :
      Reended input other -> Reended (10 :: input) (13 :: 10 :: other)

/-- The chunks are the same, or a carriage return has been put in front of a last newline. -/
inductive SameLine : Bytes -> Bytes -> Prop where
  | same (chunk : Bytes) : SameLine chunk chunk
  | widened (front : Bytes) : SameLine (front ++ [10]) (front ++ [13, 10])

theorem SameLine.cons {chunk other : Bytes} (h : SameLine chunk other) (byte : UInt8) :
    SameLine (byte :: chunk) (byte :: other) := by
  cases h with
  | same => exact SameLine.same (byte :: chunk)
  | widened front => exact SameLine.widened (byte :: front)

/-- Only a newline ends a chunk, so the chunks of the one input are those of the other. -/
theorem Reended.chunks {input other : Bytes} (h : Reended input other) :
    List.Forall₂ SameLine (chunks input) (chunks other) := by
  induction h with
  | nil => exact List.Forall₂.nil
  | @keep byte input other _ ih =>
      by_cases hbyte : byte = 10
      · subst hbyte
        rw [chunks_newline, chunks_newline]
        exact List.Forall₂.cons (SameLine.same [10]) ih
      · cases hinput : Host.chunks input with
        | nil =>
            rw [hinput] at ih
            have hother : Host.chunks other = [] := List.forall₂_nil_left_iff.mp ih
            rw [chunks_eq_nil_iff.mp hinput, chunks_eq_nil_iff.mp hother]
            exact List.forall₂_same.mpr fun chunk _ => SameLine.same chunk
        | cons chunk later =>
            rw [hinput] at ih
            rcases List.forall₂_cons_left_iff.mp ih with ⟨first, more, hfirst, hmore, hother⟩
            rw [chunks_cons_of_eq_cons hbyte hinput, chunks_cons_of_eq_cons hbyte hother]
            exact List.Forall₂.cons (hfirst.cons byte) hmore
  | widen _ ih =>
      rw [chunks_newline, chunks_cons_of_eq_cons (by decide) (chunks_newline _)]
      exact List.Forall₂.cons (SameLine.widened []) ih

/-!
# Lines without their endings
-/

theorem lineOf?_concat {c : Char} (h : isLineEnding c = true) (front : Bytes) :
    lineOf? (front ++ [UInt8.ofNat c.toNat]) = lineOf? front := by
  have hc : c.toNat < 128 := by
    rcases Bool.or_eq_true_iff.mp h with hnewline | hreturn
    · rw [beq_iff_eq.mp hnewline]
      decide
    · rw [beq_iff_eq.mp hreturn]
      decide
  have htrim : Text.trimEndWhile isLineEnding ∘ (· ++ [c]) = Text.trimEndWhile isLineEnding :=
    funext fun text => Text.trimEndWhile_concat h text
  unfold lineOf?
  rw [Utf8.decode?_concat front hc, Option.map_map, htrim]

theorem SameLine.lineOf?_eq {chunk other : Bytes} (h : SameLine chunk other) :
    lineOf? other = lineOf? chunk := by
  cases h with
  | same => rfl
  | widened front =>
      have hnewline : ∀ bytes, lineOf? (bytes ++ [10]) = lineOf? bytes :=
        lineOf?_concat (c := '\n') rfl
      have hreturn : lineOf? (front ++ [13]) = lineOf? front := lineOf?_concat (c := '\r') rfl front
      rw [hnewline, List.append_cons front, hnewline, hreturn]

/-!
# Sessions
-/

variable {host : Host} {disk : Disk}

theorem runChunks_congr {input other : List Bytes} (h : List.Forall₂ SameLine input other)
    (palette : Palette) :
    host.runChunks palette disk other = host.runChunks palette disk input := by
  induction h generalizing palette with
  | nil => rfl
  | @cons chunk otherChunk later otherLater hchunk _ ih =>
      cases hline : lineOf? chunk with
      | none =>
          have hother := hchunk.lineOf?_eq.trans hline
          rw [runChunks_unreadable hline, runChunks_unreadable hother]
      | some line =>
          have hother := hchunk.lineOf?_eq.trans hline
          cases hanswer : host.answer palette disk line with
          | goesOn next shown =>
              rw [runChunks_goesOn hline hanswer, runChunks_goesOn hother hanswer, ih next]
          | ended closed shown left ending =>
              rw [runChunks_ended hline hanswer, runChunks_ended hother hanswer]

/--
Whichever newlines of the input are put behind a carriage return, the session prints the
same, ends in the same way and leaves the same palette and the same disk.
-/
theorem carriage_returns_make_no_difference {input other : Bytes} (h : Reended input other)
    (palette : Palette) : host.run palette disk other = host.run palette disk input :=
  runChunks_congr h.chunks palette

/-- A paragraph is typed with both endings, a stray carriage return and an empty line in it. -/
theorem carriage_returns_make_no_difference_typing :
    let host : Host :=
      { target := .file ['f'], source := .textField, options := Options.default, json := false }
    let disk : Disk := { here := [], entries := [([['f']], .file [97])] }
    let palette := Palette.ofLines .textField [['a']] Options.default
    let input := "a\nb\rc\n\n.\nw".toList
    let other := "a\r\nb\rc\n\r\n.\r\nw".toList
    let run := host.run palette disk (Utf8.encode other)
    Reended (Utf8.encode input) (Utf8.encode other) ∧
      run.ending = .ok .written ∧
      run.disk.readFile? ['f'] = some (Utf8.encode "a\nb\rc\n".toList) ∧
      run.output = "**Buffer written.\n".toList := by
  intro host disk palette input other run
  have hreended : Reended (Utf8.encode input) (Utf8.encode other) :=
    .keep _ (.widen (.keep _ (.keep _ (.keep _ (.keep _ (.widen (.keep _ (.widen
      (.keep _ .nil)))))))))
  have hrun : run = host.run palette disk (Utf8.encode input) :=
    carriage_returns_make_no_difference hreended palette
  rw [hrun]
  exact ⟨hreended, rfl, rfl, rfl⟩

end Host
end LinePalette
