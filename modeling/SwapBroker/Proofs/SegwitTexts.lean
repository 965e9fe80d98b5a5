import Mathlib.Data.Option.Basic
import SwapBroker.Encoding.Segwit

/-!
# Texts of segwit addresses

A segwit address is a human readable part, a separator and digits. The digits between the version
and the checksum are those of whole bytes, so not every number of them occurs.
-/

namespace SwapBroker

namespace Segwit

theorem eq_append_of_splitLast? {s name data : List Char} (h : splitLast? s = some (name, data)) :
    s = name ++ '1' :: data := by
  obtain ⟨⟨d, n⟩, hcut, hpair⟩ := Option.map_eq_some_iff.mp h
  cases hpair
  have hrev := congrArg List.reverse (Text.eq_append_of_cutAt? hcut)
  simpa using hrev

theorem length_takeBytes (bits : List Bool) :
    8 * (takeBytes bits).1.length + (takeBytes bits).2.length = bits.length := by
  fun_induction takeBytes bits with
  | case1 b7 b6 b5 b4 b3 b2 b1 b0 rest value bytes left h ih =>
    simp only [h] at ih
    simp only [List.length_cons]
    omega
  | case2 left h => simp

theorem length_flatMap_bitsOf (digits : List Nat) :
    (digits.flatMap bitsOf).length = 5 * digits.length := by
  induction digits with
  | nil => rfl
  | cons d digits ih =>
    rw [List.flatMap_cons, List.length_append, ih, List.length_cons, Nat.mul_succ, Nat.add_comm]
    rfl

theorem padding_of_programOf? {digits : List Nat} {program : Bytes}
    (h : programOf? digits = some program) : 5 * digits.length % 8 ≤ 4 := by
  have hlen := length_takeBytes (digits.flatMap bitsOf)
  rw [length_flatMap_bitsOf] at hlen
  simp only [programOf?] at h
  split at h
  next hleft =>
    calc 5 * digits.length % 8 = (takeBytes (digits.flatMap bitsOf)).2.length % 8 := by
          rw [← hlen, Nat.mul_add_mod]
      _ ≤ (takeBytes (digits.flatMap bitsOf)).2.length := Nat.mod_le _ _
      _ ≤ 4 := hleft.1
  next => cases h

theorem length_of_mapM {α β : Type} {f : α → Option β} {as : List α} {bs : List β}
    (h : as.mapM f = some bs) : bs.length = as.length := by
  induction as generalizing bs with
  | nil =>
    rw [List.mapM_nil] at h
    cases h
    rfl
  | cons a as ih =>
    simp only [List.mapM_cons, Option.bind_eq_bind, Option.bind_eq_some_iff, Option.pure_def,
      Option.some.injEq] at h
    obtain ⟨b, -, bs, hbs, rfl⟩ := h
    rw [List.length_cons, List.length_cons, ih hbs]

/-- Behind the separator stand the version, the digits of the program and those of the checksum. -/
theorem data_of_decode? {s : String} {a : Address} (h : decode? s = some a) :
    ∃ data k, (Text.lower s).toList = a.name.toList ++ '1' :: data ∧ data.length = k + 7 ∧
      5 * k % 8 ≤ 4 := by
  simp only [decode?, Option.bind_eq_bind, Option.bind_eq_some_iff, Option.pure_def,
    Option.some.injEq, Prod.exists] at h
  obtain ⟨_, -, _, -, name, data, hsplit, _, -, digits, hdigits, version, -, _, hsize, _, -,
    program, hprogram, _, -, rfl⟩ := h
  have hlen := length_of_mapM hdigits
  have hmin : 6 < digits.length := by
    by_cases hboth : version ≤ maxVersion ∧ checksumSize < digits.length
    · exact hboth.2
    · rw [guard, if_neg hboth] at hsize
      cases hsize
  have hpadding := padding_of_programOf? hprogram
  rw [List.length_drop, List.length_take] at hpadding
  have hk : min (digits.length - checksumSize) digits.length - 1 = digits.length - 7 := by
    have hc : checksumSize = 6 := rfl
    omega
  rw [hk] at hpadding
  refine ⟨data, digits.length - 7, ?_, by omega, hpadding⟩
  rw [Text.lower, String.toList_ofList, String.toList_ofList]
  exact eq_append_of_splitLast? hsplit

/-- The human readable part stands in front of a separator, in letters of either case. -/
theorem lower_eq_of_decode? {s : String} {a : Address} (h : decode? s = some a) :
    ∃ data, (Text.lower s).toList = a.name.toList ++ '1' :: data := by
  obtain ⟨data, -, hlower, -⟩ := data_of_decode? h
  exact ⟨data, hlower⟩

end Segwit

end SwapBroker
