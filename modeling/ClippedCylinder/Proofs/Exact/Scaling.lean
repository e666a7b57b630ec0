import ClippedCylinder.Proofs.Exact.Assembly
import ClippedCylinder.Proofs.Exact.Frame

/-!
# Lengths of frame vectors

Only the directions of the axis and of a frame vector matter to a placement.  The bounds that their
lengths have to meet decide whether there is a placement, but positive factors never lead from one
placement to another one (`CylinderSpec.placement_stretched`).  So cylinders whose descriptions
differ in these factors only have the same half-spaces and contain the same points
(`Cylinder.assemble_stretched`).
-/

namespace ClippedCylinder

/-- A completed frame has the same directions whatever the lengths of the given vectors are. -/
theorem Frame.directions_completed_scale (c : Lateral) (v axis : Vec3 ℝ) {j k : ℝ} (hj : 0 < j)
    (hk : 0 < k) :
  (completed c (v.scale k) (axis.scale j)).directions = (completed c v axis).directions
  := by
  have hcross := Vec3.direction_scale (v.cross axis) (mul_pos hk hj)
  rw [← Vec3.cross_scale] at hcross
  cases c <;>
    simp only [completed, directions, hcross, Vec3.direction_scale v hk,
      Vec3.direction_scale axis hj]

namespace CylinderSpec

variable {s : CylinderSpec ℝ} {j k : ℝ} {t t' : AffineMap ℝ}

/-- The description with the axis multiplied by `j` and the frame vectors by `k`. -/
noncomputable def stretched (s : CylinderSpec ℝ) (j k : ℝ) : CylinderSpec ℝ :=
  { s with
    axis := s.axis.scale j
    frameX := s.frameX.map (·.scale k)
    frameY := s.frameY.map (·.scale k) }

theorem HasOnlyFrame.stretched {c : Lateral} {v : Vec3 ℝ} (h : s.HasOnlyFrame c v) (j k : ℝ) :
  (s.stretched j k).HasOnlyFrame c (v.scale k)
  := by
  cases c with
  | x => exact ⟨congrArg (Option.map _) h.1, congrArg (Option.map _) h.2⟩
  | y => exact ⟨congrArg (Option.map _) h.1, congrArg (Option.map _) h.2⟩

theorem hasFrame_stretched (s : CylinderSpec ℝ) (j k : ℝ) :
  (s.stretched j k).hasFrame = s.hasFrame
  := by
  simp only [hasFrame, stretched, Option.isSome_map]

/-- Positive factors of the axis and of the frame vector do not change the placement. -/
theorem placement_stretched (hj : 0 < j) (hk : 0 < k) (h : s.placement.outcome = .ok t)
    (h' : (s.stretched j k).placement.outcome = .ok t') :
  t' = t
  := by
  cases hframe : s.hasFrame with
  | false =>
    have hframe' := (hasFrame_stretched s j k).trans hframe
    obtain ⟨-, rfl⟩ := (placement_eq_ok_iff_of_axis hframe).mp h
    obtain ⟨-, rfl⟩ := (placement_eq_ok_iff_of_axis hframe').mp h'
    have haxis := Vec3.direction_scale s.axis hj
    simp only [stretched, haxis]
  | true =>
    obtain ⟨c, v, honly⟩ := exists_hasOnlyFrame h hframe
    obtain ⟨-, rfl⟩ := honly.placement_eq_ok_iff.mp h
    obtain ⟨-, rfl⟩ := (honly.stretched j k).placement_eq_ok_iff.mp h'
    simp only [stretched, Frame.directions_completed_scale c v s.axis hj hk]

end CylinderSpec

namespace Cylinder

variable {name : String} {s : CylinderSpec ℝ} {j k : ℝ} {t t' : AffineMap ℝ}

/-- Positive factors of the axis and of the frame vector change neither the placement of a
description nor whether it can be assembled, and the cylinders have the same half-spaces and contain
the same points. -/
theorem assemble_stretched (name : String) (hj : 0 < j) (hk : 0 < k)
    (h : s.placement.outcome = .ok t) (h' : (s.stretched j k).placement.outcome = .ok t') :
  t' = t ∧
    (assemble name (s.stretched j k)).outcome
      = (assemble name s).outcome.map (fun c => { c with spec := s.stretched j k }) ∧
    ∀ c c', (assemble name s).outcome = .ok c →
      (assemble name (s.stretched j k)).outcome = .ok c' →
      c'.placement = c.placement ∧ c'.bounds = c.bounds ∧
        ∀ tolerance p, c'.contains tolerance p = c.contains tolerance p
  := by
  obtain rfl := CylinderSpec.placement_stretched hj hk h h'
  have hassemble : (assemble name (s.stretched j k)).outcome
      = (assemble name s).outcome.map (fun c => { c with spec := s.stretched j k }) := by
    simp only [assemble, Traced.outcome_bind, Traced.outcome_lift, Traced.outcome_pure, h, h',
      Outcome.ok_bind]
    change localBounds s t' >>= _ = _
    cases localBounds s t' with
    | error f => rfl
    | ok bounds => rfl
  refine ⟨rfl, hassemble, ?_⟩
  intro c c' hc hc'
  rw [hassemble, hc] at hc'
  obtain rfl := spec_assemble hc
  obtain rfl := Except.ok.inj hc'
  exact ⟨rfl, rfl, fun _ _ => rfl⟩

/-- The axis `(0, 0, 1)` and the frame vector `(3, 0, 4)` may be multiplied by two and three. -/
theorem assemble_stretched_of_leaning :
  ∃ c, (assemble "Cyl" (leaning 4)).outcome = .ok c ∧
    (assemble "Cyl" ((leaning 4).stretched 2 3)).outcome
      = .ok { c with spec := (leaning 4).stretched 2 3 }
  := by
  obtain ⟨c, hc⟩ := exists_assemble_leaning (k := 4) (n := 5) (by norm_num) (by norm_num)
    (by norm_num)
  have hframe : (leaning 4).HasOnlyFrame .x ⟨3, 0, 4⟩ := ⟨rfl, rfl⟩
  obtain ⟨t, ht⟩ : ∃ t, ((leaning 4).stretched 2 3).placement.outcome = .ok t := by
    rw [(hframe.stretched 2 3).exists_placement_iff, Scalar.epsilon_eq]
    norm_num [CylinderSpec.stretched, leaning, Vec3.scale, Vec3.cross_eq, Vec3.dot_eq]
  obtain ⟨-, hassemble, -⟩ :=
    assemble_stretched "Cyl" two_pos three_pos (placement_assemble hc) ht
  use c, hc
  rw [hassemble, hc]
  rfl

end Cylinder

end ClippedCylinder
