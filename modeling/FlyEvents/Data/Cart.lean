import FlyEvents.Data.ServiceOptions
import Mathlib.Algebra.Order.BigOperators.Group.List
import Mathlib.Algebra.Order.Group.Int
import Mathlib.Algebra.Order.Ring.Int

/-! # Carts

What a customer ordered: options with a quantity. The screens keep only the
options and the total, in two fields; a cart says what the two are about.
-/

namespace FlyEvents

variable {Image : Type}

@[ext] structure CartLine (Image : Type) where
  option : ServiceOptionModel Image
  quantity : Int
  deriving DecidableEq

def CartLine.cost (line : CartLine Image) : Int := line.quantity * line.option.price

abbrev Cart (Image : Type) := List (CartLine Image)

namespace Cart

def options (cart : Cart Image) : List (ServiceOptionModel Image) := cart.map CartLine.option

def total (cart : Cart Image) : Int := (cart.map CartLine.cost).sum

/-- The total with every option counted once. -/
def unitTotal (cart : Cart Image) : Int := (cart.options.map ServiceOptionModel.price).sum

@[simp] theorem options_nil : options ([] : Cart Image) = [] := rfl

@[simp] theorem options_cons (line : CartLine Image) (cart : Cart Image) :
    options (line :: cart) = line.option :: options cart := rfl

@[simp] theorem options_append (first second : Cart Image) :
    options (first ++ second) = options first ++ options second := List.map_append

@[simp] theorem total_nil : total ([] : Cart Image) = 0 := rfl

@[simp] theorem total_cons (line : CartLine Image) (cart : Cart Image) :
    total (line :: cart) = line.cost + total cart := by
  simp [total]

@[simp] theorem total_append (first second : Cart Image) :
    total (first ++ second) = total first + total second := by
  simp [total]

@[simp] theorem unitTotal_nil : unitTotal ([] : Cart Image) = 0 := rfl

@[simp] theorem unitTotal_cons (line : CartLine Image) (cart : Cart Image) :
    unitTotal (line :: cart) = line.option.price + unitTotal cart := by
  simp [unitTotal]

/-- A line with a positive quantity costs at least one unit. -/
theorem price_le_cost_iff {line : CartLine Image} (hprice : 0 < line.option.price) :
    line.option.price ≤ line.cost ↔ 1 ≤ line.quantity := by
  unfold CartLine.cost
  constructor
  · intro hcost
    by_contra hquantity
    have hnonpositive : line.quantity ≤ 0 := by omega
    have := mul_nonpos_of_nonpos_of_nonneg hnonpositive hprice.le
    omega
  · intro hquantity
    exact le_mul_of_one_le_left hprice.le hquantity

theorem unitTotal_le_total {cart : Cart Image} (hprice : ∀ line ∈ cart, 0 < line.option.price)
    (hquantity : ∀ line ∈ cart, 1 ≤ line.quantity) : cart.unitTotal ≤ cart.total := by
  induction cart with
  | nil => rfl
  | cons line rest ih =>
      have hline := (price_le_cost_iff (hprice line List.mem_cons_self)).mpr
        (hquantity line List.mem_cons_self)
      have hrest := ih (fun other hother => hprice other (List.mem_cons_of_mem line hother))
        (fun other hother => hquantity other (List.mem_cons_of_mem line hother))
      rw [unitTotal_cons, total_cons]
      omega

theorem unitTotal_nonneg {cart : Cart Image} (hprice : ∀ line ∈ cart, 0 < line.option.price) :
    0 ≤ cart.unitTotal := by
  apply List.sum_nonneg
  intro price hmem
  simp only [options, List.map_map, List.mem_map, Function.comp_apply] at hmem
  obtain ⟨line, hline, rfl⟩ := hmem
  exact (hprice line hline).le

theorem unitTotal_pos_iff {cart : Cart Image} (hprice : ∀ line ∈ cart, 0 < line.option.price) :
    0 < cart.unitTotal ↔ cart ≠ [] := by
  cases cart with
  | nil => simp
  | cons line rest =>
      have hline := hprice line List.mem_cons_self
      have hrest := unitTotal_nonneg fun other hother =>
        hprice other (List.mem_cons_of_mem line hother)
      simp only [unitTotal_cons, ne_eq, reduceCtorEq, not_false_eq_true, iff_true]
      omega

/-- The lines that are priced for each person. -/
def perPerson (cart : Cart Image) : Cart Image :=
  cart.filter fun line => decide line.option.PricedPerPerson

/-- Every other line is for one unit. -/
def Charged (cart : Cart Image) : Prop :=
  ∀ line ∈ cart, ¬ line.option.PricedPerPerson → line.quantity = 1

theorem Charged.tail {line : CartLine Image} {cart : Cart Image}
    (hcharged : Charged (line :: cart)) : Charged cart :=
  fun other hother => hcharged other (List.mem_cons_of_mem line hother)

/-- The total is that of the lines priced for each person, and an amount that
depends on the options alone. -/
theorem Charged.total_eq {cart : Cart Image} (hcharged : Charged cart) :
    cart.total = cart.perPerson.total +
      ((cart.options.filter fun option => ¬ option.PricedPerPerson).map
        ServiceOptionModel.price).sum := by
  induction cart with
  | nil => rfl
  | cons line rest ih =>
      have hrest := ih hcharged.tail
      rw [total_cons, hrest]
      by_cases hline : line.option.PricedPerPerson
      · simp [perPerson, hline, add_assoc]
      · have hquantity := hcharged line List.mem_cons_self hline
        simp [perPerson, hline, CartLine.cost, hquantity]
        omega

/-- Carts with the same options have the same total if and only if their lines
priced for each person do. -/
theorem Charged.total_eq_iff {first second : Cart Image} (hfirst : Charged first)
    (hsecond : Charged second) (hoptions : first.options = second.options) :
    first.total = second.total ↔ first.perPerson.total = second.perPerson.total := by
  rw [hfirst.total_eq, hsecond.total_eq, hoptions]
  exact add_left_inj _

theorem perPerson_length (cart : Cart Image) :
    cart.perPerson.length =
      (cart.options.filter fun option => decide option.PricedPerPerson).length := by
  rw [options, List.filter_map, List.length_map]
  rfl

/-- With at most one line priced for each person, the options and the total of
these lines determine the cart. -/
theorem Charged.eq_of_perPerson {first second : Cart Image} (hfirst : Charged first)
    (hsecond : Charged second) (hoptions : first.options = second.options)
    (hprice : ∀ line ∈ first, 0 < line.option.price)
    (hone : first.perPerson.length ≤ 1)
    (htotal : first.perPerson.total = second.perPerson.total) : first = second := by
  induction first generalizing second with
  | nil =>
      cases second with
      | nil => rfl
      | cons line rest => cases hoptions
  | cons line rest ih =>
      cases second with
      | nil => cases hoptions
      | cons other later =>
          rw [options_cons, options_cons, List.cons.injEq] at hoptions
          obtain ⟨hoption, hrest⟩ := hoptions
          have htail := ih hfirst.tail hsecond.tail hrest
            fun line hline => hprice line (List.mem_cons_of_mem _ hline)
          by_cases hline : line.option.PricedPerPerson
          · -- The line for each person: all the others are charged once.
            have hother : other.option.PricedPerPerson := hoption ▸ hline
            have hnone : perPerson rest = [] := by
              simpa [perPerson, hline] using hone
            have hlater : perPerson later = [] := by
              rw [← List.length_eq_zero_iff, perPerson_length, ← hrest, ← perPerson_length, hnone]
              rfl
            have hcost : line.cost = other.cost := by
              have hsum : line.cost + total (perPerson rest) =
                  other.cost + total (perPerson later) := by
                simpa [perPerson, hline, hother] using htotal
              simpa [hnone, hlater] using hsum
            have hquantity : line.quantity = other.quantity := by
              unfold CartLine.cost at hcost
              rw [← hoption] at hcost
              exact Int.eq_of_mul_eq_mul_right (hprice line List.mem_cons_self).ne' hcost
            have heq : line = other := CartLine.ext hoption hquantity
            rw [heq, htail (by simp [hnone]) (by rw [hnone, hlater])]
          · have hother : ¬ other.option.PricedPerPerson := hoption ▸ hline
            have hquantity : line.quantity = other.quantity :=
              (hfirst line List.mem_cons_self hline).trans
                (hsecond other List.mem_cons_self hother).symm
            have heq : line = other := CartLine.ext hoption hquantity
            rw [heq, htail (by simpa [perPerson, hline] using hone)
              (by simpa [perPerson, hline, hother] using htotal)]

end Cart

end FlyEvents
