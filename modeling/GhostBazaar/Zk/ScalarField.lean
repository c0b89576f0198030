import Mathlib.Tactic.NormNum.Prime
import GhostBazaar.LucasCertificate

/-! The scalar field of BN254. -/
namespace GhostBazaar.Zk
open LucasCertificate

def scalarModulus : ℕ :=
  21888242871839275222246405745257275088548364400416034343698204186575808495617

/-- A signal of a circuit. -/
abbrev Scalar : Type := ZMod scalarModulus

/-! ### The modulus is prime -/

theorem prime_scalarModulus : scalarModulus.Prime := by
  have h405928799 : Nat.Prime 405928799 := by
    apply Certificate.prime ⟨29, 22, [2, 11, 3691, 4999]⟩ (by decide +kernel)
    norm_num
  have h639533339 : Nat.Prime 639533339 := by
    apply Certificate.prime ⟨30, 2, [2, 229, 853, 1637]⟩ (by decide +kernel)
    norm_num
  have h65865678001877903 : Nat.Prime 65865678001877903 := by
    apply Certificate.prime ⟨56, 5, [2, 83, 379, 1637, 639533339]⟩ (by decide +kernel)
    simp only [List.forall_mem_cons, h639533339]
    norm_num
  have h13818364434197438864469338081 : Nat.Prime 13818364434197438864469338081 := by
    apply Certificate.prime ⟨94, 3, List.replicate 5 2 ++ [5, 823, 1593227, 65865678001877903]⟩
      (by decide +kernel)
    simp only [List.forall_mem_append, List.forall_mem_replicate, List.forall_mem_cons,
      h65865678001877903]
    norm_num
  have h12048837557 : Nat.Prime 12048837557 := by
    apply Certificate.prime ⟨34, 2, [2, 2, 7, 7, 661, 93001]⟩ (by decide +kernel)
    norm_num
  have h5156902474397 : Nat.Prime 5156902474397 := by
    apply Certificate.prime ⟨43, 2, [2, 2, 107, 12048837557]⟩ (by decide +kernel)
    simp only [List.forall_mem_cons, h12048837557]
    norm_num
  have h1670836401704629 : Nat.Prime 1670836401704629 := by
    apply Certificate.prime ⟨51, 2, [2, 2, 3, 3, 3, 3, 5156902474397]⟩ (by decide +kernel)
    simp only [List.forall_mem_cons, h5156902474397]
    norm_num
  apply Certificate.prime ⟨254, 5, List.replicate 28 2 ++ [3, 3, 13, 29, 983, 11003, 237073,
    405928799, 1670836401704629, 13818364434197438864469338081]⟩ (by decide +kernel)
  simp only [List.forall_mem_append, List.forall_mem_replicate, List.forall_mem_cons,
    h405928799, h1670836401704629, h13818364434197438864469338081]
  norm_num

instance : Fact scalarModulus.Prime := ⟨prime_scalarModulus⟩

end GhostBazaar.Zk
