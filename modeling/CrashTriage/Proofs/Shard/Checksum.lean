import CrashTriage.Proofs.Shard.Computing
import Mathlib.Data.List.Flatten

/-!
# What the checksum of a population tells

The checksum is the first word of a digest, and what is digested is a stream of bytes with eight for
each thread: its frame count, the least significant byte first. Nothing in the stream separates two
counts, and it does not say how many there are. It need not: **every count takes the same number of
bytes**, so there is one way only to cut the stream up, and populations have the same stream exactly
if they have the same frame counts (`Population.checksumBytes_eq_iff`).

So a shard that was computed over one population passes for a shard of any other one with the same
frame counts, whatever the threads are otherwise. If the counts differ and the checksums still agree,
then this is the fault of the digest: the two streams are different, and their digests begin with
the same four bytes (`Sha256.Collide`).

Of digests there are only so many, so that *some* two messages collide needs no proof and tells
nothing. What is proved is which two do: the streams of the two populations.
-/

namespace CrashTriage

namespace Sha256

/-! ### Numbers in bytes -/

@[simp] theorem length_littleEndian (count n : Nat) : (littleEndian count n).length = count := by
  induction count generalizing n with
  | zero => rfl
  | succ count ih => rw [littleEndian, List.length_cons, ih]

/-- **Numbers that fit are told apart by their bytes.** -/
theorem eq_of_littleEndian_eq {count n n' : Nat} (hn : n < 256 ^ count) (hn' : n' < 256 ^ count)
    (h : littleEndian count n = littleEndian count n') : n = n' := by
  induction count generalizing n n' with
  | zero =>
    rw [pow_zero] at hn hn'
    omega
  | succ count ih =>
    obtain ⟨hlow, hhigh⟩ := List.cons.inj h
    have hmod : n % 256 = n' % 256 := by
      simpa using congrArg UInt8.toNat hlow
    rw [pow_succ'] at hn hn'
    have hdiv : n / 256 = n' / 256 :=
      ih (Nat.div_lt_of_lt_mul hn) (Nat.div_lt_of_lt_mul hn') hhigh
    rw [← Nat.div_add_mod n 256, ← Nat.div_add_mod n' 256, hdiv, hmod]

/-- The four bytes of a word, the most significant one first. -/
def wordBytes (w : UInt32) : List UInt8 :=
  (littleEndian 4 w.toNat).reverse

theorem length_wordBytes (w : UInt32) : (wordBytes w).length = 4 := by
  rw [wordBytes, List.length_reverse, length_littleEndian]

theorem wordBytes_injective : Function.Injective wordBytes := by
  intro w w' h
  have hw : w.toNat < 256 ^ 4 := w.toNat_lt
  have hw' : w'.toNat < 256 ^ 4 := w'.toNat_lt
  exact UInt32.toNat_inj.mp (eq_of_littleEndian_eq hw hw' (List.reverse_inj.mp h))

/-! ### Digests in bytes -/

/-- The bytes of a digest, word by word. -/
def State.bytes (s : State) : List UInt8 :=
  [s.a, s.b, s.c, s.d, s.e, s.f, s.g, s.h].flatMap wordBytes

/-- A digest begins with the bytes of its first word. -/
theorem State.take_bytes (s : State) : s.bytes.take 4 = wordBytes s.a := by
  rw [bytes, List.flatMap_cons, List.take_append_of_le_length (length_wordBytes s.a).ge,
    List.take_of_length_le (length_wordBytes s.a).le]

/-- **Two messages collide** in a number of bytes, if they are different and their digests begin with
the same ones. -/
def Collide (count : Nat) (message message' : List UInt8) : Prop :=
  message ≠ message'
    ∧ (digest message).bytes.take count = (digest message').bytes.take count

/-- The first words of two digests are the same if their first four bytes are. -/
theorem take_bytes_eq_iff {message message' : List UInt8} :
    (digest message).bytes.take 4 = (digest message').bytes.take 4
      ↔ (digest message).a = (digest message').a := by
  rw [State.take_bytes, State.take_bytes, wordBytes_injective.eq_iff]

end Sha256

namespace Population

variable {threads others : List Thread}

/-! ### The stream of the frame counts -/

/-- There are as many threads, and each has as many frames as the one at its place. -/
def SameFrameCounts (threads others : List Thread) : Prop :=
  threads.length = others.length
    ∧ ∀ (i : Nat) (t u : Thread), threads[i]? = some t → others[i]? = some u →
      t.frames.length = u.frames.length

/-- Every thread takes eight bytes. -/
theorem length_checksumBytes (threads : List Thread) :
    (checksumBytes threads).length = 8 * threads.length := by
  simp [checksumBytes, List.length_flatMap, List.map_const', Nat.mul_comm]

/-- **The stream can be cut up in one way only.** -/
theorem checksumBytes_eq_iff_map :
    checksumBytes threads = checksumBytes others
      ↔ threads.map (fun t => Sha256.littleEndian 8 t.frames.length)
        = others.map fun t => Sha256.littleEndian 8 t.frames.length := by
  rw [List.eq_iff_flatten_eq]
  refine ⟨fun h => ⟨h, ?_⟩, And.left⟩
  -- streams of the same length are of as many threads, and each of them takes eight bytes
  have hlength : threads.length = others.length := by
    have hbytes := congrArg List.length h
    rw [length_checksumBytes, length_checksumBytes] at hbytes
    omega
  simp [List.map_const', hlength, Function.comp_def]

/-- **The stream tells the frame counts**, and nothing else. -/
theorem checksumBytes_eq_iff (hthreads : ∀ t ∈ threads, t.frames.length < 2 ^ 64)
    (hothers : ∀ t ∈ others, t.frames.length < 2 ^ 64) :
    checksumBytes threads = checksumBytes others ↔ SameFrameCounts threads others := by
  rw [checksumBytes_eq_iff_map]
  constructor
  · intro h
    refine ⟨by simpa using congrArg List.length h, fun i t u ht hu => ?_⟩
    have hi := congrArg (·[i]?) h
    simp only [List.getElem?_map, ht, hu, Option.map_some, Option.some.injEq] at hi
    exact Sha256.eq_of_littleEndian_eq (hthreads t (List.mem_of_getElem? ht))
      (hothers u (List.mem_of_getElem? hu)) hi
  · rintro ⟨hlength, hcounts⟩
    refine List.ext_getElem (by simpa using hlength) fun i hi hi' => ?_
    rw [List.length_map] at hi hi'
    rw [List.getElem_map, List.getElem_map, hcounts i threads[i] others[i]
      (List.getElem?_eq_getElem hi) (List.getElem?_eq_getElem hi')]

/-- **Checksums agree** if the streams do, or else if the streams collide. -/
theorem checksum_eq_iff (threads others : List Thread) :
    checksum threads = checksum others
      ↔ checksumBytes threads = checksumBytes others
        ∨ Sha256.Collide 4 (checksumBytes threads) (checksumBytes others) := by
  constructor
  · intro h
    by_cases hbytes : checksumBytes threads = checksumBytes others
    · exact Or.inl hbytes
    · exact Or.inr ⟨hbytes, Sha256.take_bytes_eq_iff.mpr h⟩
  · rintro (h | ⟨-, h⟩)
    · rw [checksum, checksum, h]
    · exact Sha256.take_bytes_eq_iff.mp h

/-- A computed shard passes for a shard of the populations with the same checksum. -/
theorem matchesChecksum_iff_of_compute {s s' : Shard} (h : s.compute threads = .ok s') :
    s'.matchesChecksum others = true ↔ checksum threads = checksum others := by
  obtain ⟨-, -, -, rfl⟩ := Shard.compute_eq_ok_iff.mp h
  rw [Shard.matchesChecksum, Shard.computed_checksum, beq_iff_eq, Option.some.injEq]

/-- **The checksum sees the frame counts and nothing else.** The streams of two populations are the
same exactly if the frame counts are. Then the checksums agree, and a shard that was computed over
one population passes for a shard of the other; for other frame counts this is so only if the two
streams collide in the first four bytes of their digests. -/
theorem checksum_tells_frameCounts (hthreads : ∀ t ∈ threads, t.frames.length < 2 ^ 64)
    (hothers : ∀ t ∈ others, t.frames.length < 2 ^ 64) :
    (checksumBytes threads = checksumBytes others ↔ SameFrameCounts threads others)
    ∧ (checksum threads = checksum others
      ↔ SameFrameCounts threads others
        ∨ Sha256.Collide 4 (checksumBytes threads) (checksumBytes others))
    ∧ ∀ s s' : Shard, s.compute threads = .ok s' →
      (s'.matchesChecksum others = true
        ↔ SameFrameCounts threads others
          ∨ Sha256.Collide 4 (checksumBytes threads) (checksumBytes others)) := by
  have hstream := checksumBytes_eq_iff hthreads hothers
  have hchecksum := checksum_eq_iff threads others
  rw [hstream] at hchecksum
  exact ⟨hstream, hchecksum, fun s s' h => (matchesChecksum_iff_of_compute h).trans hchecksum⟩

/-- A shard of two crashes of a debugger passes for one of two Java crashes with as many frames,
while the stream tells the two crashes from the same ones in the other order. -/
theorem checksum_tells_frameCounts_other_kind :
    let a : Thread := ⟨0, .debugger, [.ofDebuggerSymbol (.named "main")]⟩
    let b : Thread := ⟨1, .debugger,
      [.ofDebuggerSymbol .unknown, .ofDebuggerSymbol (.named "main")]⟩
    let c : Thread := ⟨7, .java, [.ofJavaSymbol (.named "run")]⟩
    let d : Thread := ⟨7, .java, [.ofJavaSymbol (.named "get"), .ofJavaSymbol (.named "run")]⟩
    let s : Shard := { shape := ⟨1, 2⟩, first := ⟨0, 1⟩, length := 1, metric := .edits }
    s.compute [a, b] = .ok (s.computed [a, b])
      ∧ (s.computed [a, b]).matchesChecksum [c, d] = true
      ∧ checksumBytes [a, b] ≠ checksumBytes [b, a] := by
  intro a b c d s
  have hcompute : s.compute [a, b] = .ok (s.computed [a, b]) :=
    Shard.compute_eq_ok_iff.mpr
      ⟨rfl, ⟨by decide, by decide, by decide⟩, ⟨.debugger, by decide⟩, rfl⟩
  have hsame : SameFrameCounts [a, b] [c, d] := by
    refine ⟨rfl, fun i t u ht hu => ?_⟩
    rcases i with _ | _ | i <;> simp at ht hu <;> subst ht hu <;> rfl
  refine ⟨hcompute, ?_, fun h => ?_⟩
  · exact ((checksum_tells_frameCounts (by decide) (by decide)).2.2 s _ hcompute).mpr
      (Or.inl hsame)
  · have hcounts : SameFrameCounts [a, b] [b, a] :=
      (checksum_tells_frameCounts (by decide) (by decide)).1.mp h
    exact absurd (hcounts.2 0 a b rfl rfl) (by decide)

end Population

end CrashTriage
