import ArticleExport.Proofs.Walk.Sharing

/-!
# Walks compose

Content in two parts makes the components of the first part and then those of the
second one, and neither sees the other: each part makes what it makes on its own.
In the context that the two parts share, the entries of the second one come behind
those of the first, where their names are new.
-/

namespace ArticleExport.Setup

variable {s : Setup}

theorem walkAllShared_append_of_ok
    {xs ys : List Node} {cs ds : List Component} {x y z : RunContext}
    (hxs : s.walkAllShared xs x = (.ok cs, y)) (hys : s.walkAllShared ys y = (.ok ds, z)) :
    s.walkAllShared (xs ++ ys) x = (.ok (cs ++ ds), z) := by
  induction xs generalizing x cs with
  | nil =>
      rw [walkAllShared] at hxs
      obtain ⟨rfl, rfl⟩ : cs = [] ∧ y = x := by
        cases hxs
        exact ⟨rfl, rfl⟩
      exact hys
  | cons n xs ih =>
      rw [walkAllShared] at hxs
      obtain ⟨first, v, hfirst, hrest⟩ := Shared.bind_eq_ok hxs
      obtain ⟨rest, w, hrest, hdone⟩ := Shared.bind_eq_ok hrest
      obtain ⟨rfl, rfl⟩ : cs = first ++ rest ∧ y = w := by
        cases hdone
        exact ⟨rfl, rfl⟩
      rw [List.cons_append, walkAllShared, List.append_assoc]
      refine (Shared.bind_of_ok hfirst).trans ?_
      exact Shared.bind_of_ok (ih hrest)

/-- What comes of content on its own comes of it in every sound context. -/
theorem walkAllShared_of_sound
    {ys : List Node} {ds : List Component} {cy x : RunContext}
    (hys : s.walkAllShared ys s.freshContext = (.ok ds, cy)) (hx : x.Sound s) :
    ∃ y, s.walkAllShared ys x = (.ok ds, y) ∧ y.ledger.Extends x.ledger cy.ledger := by
  obtain ⟨c, hfresh, hentered⟩ := agrees_walkAllShared ys s.freshContext (RunContext.sound_fresh s)
  obtain ⟨hds, rfl⟩ := Prod.mk.inj (hys.symm.trans hfresh)
  obtain ⟨y, hrun, hleads⟩ := agrees_walkAllShared ys x hx
  rw [← hds] at hrun
  refine ⟨y, hrun, ?_⟩
  rw [hleads.ledger, hentered.ledger]
  exact Ledger.merge_extends _ _

theorem sound_of_walkAllShared
    {zs : List Node} {r : Except Failure (List Component)} {x : RunContext}
    (hzs : s.walkAllShared zs s.freshContext = (r, x)) :
    x.Sound s := by
  obtain ⟨y, hrun, hleads⟩ := agrees_walkAllShared zs s.freshContext (RunContext.sound_fresh s)
  obtain ⟨-, rfl⟩ := Prod.mk.inj (hzs.symm.trans hrun)
  exact hleads.sound

/-- Two parts of the content that can each be exported on their own can be exported one behind
the other: the components are those of the parts, the entries those of the first part and behind
them the new ones of the second.  No component depends on what was exported before it. -/
theorem walk_append
    {xs ys : List Node} {cs ds : List Component} {cx cy : RunContext}
    (hxs : s.walkAllShared xs s.freshContext = (.ok cs, cx))
    (hys : s.walkAllShared ys s.freshContext = (.ok ds, cy)) :
    (∃ c, s.walkAllShared (xs ++ ys) s.freshContext = (.ok (cs ++ ds), c) ∧
      c.ledger.Extends cx.ledger cy.ledger ∧
      (s.walkAll (xs ++ ys)).result.map (List.map Component.bare) = .ok (cs ++ ds) ∧
      c.ledger = Ledger.empty.merge (s.walkAll (xs ++ ys)).ledger) ∧
    ∀ (zs : List Node) (r : Except Failure (List Component)) (x : RunContext),
      s.walkAllShared zs s.freshContext = (r, x) → (s.walkAllShared ys x).1 = .ok ds := by
  refine ⟨?_, ?_⟩
  · obtain ⟨c, hafter, hextends⟩ := walkAllShared_of_sound hys (sound_of_walkAllShared hxs)
    have hwhole := walkAllShared_append_of_ok hxs hafter
    obtain ⟨y, hrun, hleads⟩ :=
      agrees_walkAllShared (xs ++ ys) s.freshContext (RunContext.sound_fresh s)
    obtain ⟨hresult, rfl⟩ := Prod.mk.inj (hwhole.symm.trans hrun)
    exact ⟨c, hwhole, hextends, hresult.symm, hleads.ledger⟩
  · intro zs r x hzs
    obtain ⟨y, hrun, -⟩ := walkAllShared_of_sound hys (sound_of_walkAllShared hzs)
    rw [hrun]

theorem exists_walk_of_isOk
    (s : Setup) (zs : List Node) (h : (s.walkAllShared zs s.freshContext).1.isOk = true) :
    ∃ cs y, s.walkAllShared zs s.freshContext = (.ok cs, y) := by
  cases hrun : s.walkAllShared zs s.freshContext with
  | mk r y =>
      cases r with
      | error f =>
          rw [hrun] at h
          cases h
      | ok cs => exact ⟨cs, y, rfl⟩

/-- A photo, and behind it an aside that has the same photo in it and a script. -/
theorem extends_of_repeated_photo :
    let s : Setup := ⟨{ Settings.default with asideClass := "box", useRemoteImages := false },
      .default, .empty, some .standard⟩
    let photo : Node := .element "img" [("src", "http://a.example/x.png")] []
    let aside : Node := .element "div" [("class", "box")] [photo, .element "script" [] []]
    ∃ cs ds cx cy c,
      s.walkAllShared [photo] s.freshContext = (.ok cs, cx) ∧
      s.walkAllShared [aside] s.freshContext = (.ok ds, cy) ∧
      s.walkAllShared [photo, aside] s.freshContext = (.ok (cs ++ ds), c) ∧
      c.ledger.Extends cx.ledger cy.ledger := by
  intro s photo aside
  obtain ⟨cs, cx, hphoto⟩ := exists_walk_of_isOk s [photo] (by decide +kernel)
  obtain ⟨ds, cy, haside⟩ := exists_walk_of_isOk s [aside] (by decide +kernel)
  obtain ⟨c, hboth, hextends, -⟩ := (walk_append hphoto haside).1
  exact ⟨cs, ds, cx, cy, c, hphoto, haside, hboth, hextends⟩

end ArticleExport.Setup
