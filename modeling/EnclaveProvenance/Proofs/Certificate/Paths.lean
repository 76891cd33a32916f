import EnclaveProvenance.Proofs.Certificate.SignedPart

/-!
The chains that are accepted: each certificate is in force, and each but the last is issued by the
next one, which may issue with so many authorities between it and the leaf.
-/

namespace EnclaveProvenance.Certificate

open Checks

def InForce (certificate : Certificate) (instant : Nat) : Prop :=
  certificate.tbs.notBefore.seconds ≤ instant ∧ instant ≤ certificate.tbs.notAfter.seconds

/-- A certificate is an authority that may issue with `between` authorities between it and the
leaf. -/
def MayIssue (issuer : Certificate) (between : Nat) : Prop :=
  ∃ octets constraints, issuer.extension? BasicConstraints.oid = some octets ∧
    BasicConstraints.ofDer? octets = some constraints ∧ constraints.authority = true ∧
    ∀ limit, constraints.pathLength = some limit → between ≤ limit

/-- Its extensions do not make a certificate an authority: the constraints are missing, cannot be
read, or say that it is none. -/
inductive NoAuthority (certificate : Certificate) : Prop
  | missing : certificate.extension? BasicConstraints.oid = none → NoAuthority certificate
  | unreadable {octets : Bytes} : certificate.extension? BasicConstraints.oid = some octets →
      BasicConstraints.ofDer? octets = none → NoAuthority certificate
  | refused {octets : Bytes} {constraints : BasicConstraints} :
      certificate.extension? BasicConstraints.oid = some octets →
      BasicConstraints.ofDer? octets = some constraints → constraints.authority = false →
      NoAuthority certificate

structure ValidPath (chain : List Certificate) (instant : Nat) : Prop where
  in_force : ∀ certificate ∈ chain, certificate.InForce instant
  linked : ∀ (position : Nat) certificate issuer, chain[position]? = some certificate →
    chain[position + 1]? = some issuer → issuer.MayIssue position ∧ certificate.IssuedBy issuer

theorem checkValidity_eq_ok_iff {certificate : Certificate} {instant : Nat} {done : Unit} :
    certificate.checkValidity instant = .ok done ↔ certificate.InForce instant := by
  unfold checkValidity InForce
  dsimp only
  split
  · next outside =>
    constructor
    · intro impossible
      cases impossible
    · rintro ⟨begun, lasting⟩
      omega
  · next inside =>
    refine ⟨fun _ => ?_, fun _ => rfl⟩
    omega

theorem checkAllValid_eq_ok_iff {instant : Nat} {chain : List Certificate} {done : Unit} :
    checkAllValid instant chain = .ok done ↔ ∀ certificate ∈ chain, certificate.InForce instant := by
  induction chain with
  | nil => simp [checkAllValid]
  | cons certificate rest ih =>
    simp only [checkAllValid, bind_eq_ok_iff, checkValidity_eq_ok_iff, ih, List.forall_mem_cons]
    exact ⟨fun ⟨_, passed⟩ => passed, fun passed => ⟨(), passed⟩⟩

theorem basicConstraints?_eq_some_iff {certificate : Certificate} {constraints : BasicConstraints} :
    certificate.basicConstraints? = some constraints ↔ ∃ octets,
      certificate.extension? BasicConstraints.oid = some octets ∧
        BasicConstraints.ofDer? octets = some constraints :=
  Option.bind_eq_some_iff

theorem checkAuthority_eq_ok_iff {issuer : Certificate} {depth : Nat} {done : Unit} :
    issuer.checkAuthority depth = .ok done ↔ issuer.MayIssue depth := by
  have given : issuer.MayIssue depth ↔ ∃ constraints,
      issuer.basicConstraints? = some constraints ∧ constraints.authority = true ∧
        ∀ limit, constraints.pathLength = some limit → depth ≤ limit := by
    simp only [basicConstraints?_eq_some_iff]
    constructor
    · rintro ⟨octets, constraints, present, read, limits⟩
      exact ⟨constraints, ⟨octets, present, read⟩, limits⟩
    · rintro ⟨constraints, ⟨octets, present, read⟩, limits⟩
      exact ⟨octets, constraints, present, read, limits⟩
  rw [given, checkAuthority]
  split
  · next unread => simp [unread]
  · next constraints read =>
    simp only [read, Option.some.injEq, exists_eq_left']
    split
    · next authority =>
      split
      · next unlimited => simp [authority, unlimited]
      · next limit limited =>
        split
        · next exceeded =>
          simp only [reduceCtorEq, false_iff, not_and]
          intro _ within
          exact absurd (within limit limited) (Nat.not_le.2 exceeded)
        · next within =>
          simp only [true_iff]
          refine ⟨authority, fun other found => ?_⟩
          rw [limited, Option.some.injEq] at found
          omega
    · next other => simp [other]

/-- With `depth` authorities below the head of a chain, each issuer has so many more below it. -/
theorem checkLinks_eq_ok_iff {depth : Nat} {chain : List Certificate} {done : Unit} :
    checkLinks depth chain = .ok done ↔ ∀ (position : Nat) certificate issuer,
      chain[position]? = some certificate → chain[position + 1]? = some issuer →
        issuer.MayIssue (depth + position) ∧ certificate.IssuedBy issuer := by
  induction chain generalizing depth with
  | nil => simp [checkLinks]
  | cons certificate rest ih =>
    cases rest with
    | nil => simp [checkLinks]
    | cons issuer others =>
      simp only [checkLinks, bind_eq_ok_iff, checkAuthority_eq_ok_iff, checkIssuedBy_eq_ok_iff, ih]
      constructor
      · rintro ⟨_, mayIssue, _, issued, above⟩ position subject signer here next
        cases position with
        | zero =>
          cases here
          cases next
          exact ⟨mayIssue, issued⟩
        | succ position =>
          have later := above position subject signer here next
          rwa [Nat.add_right_comm] at later
      · intro links
        obtain ⟨mayIssue, issued⟩ := links 0 certificate issuer rfl rfl
        refine ⟨(), mayIssue, (), issued, ?_⟩
        intro position subject signer here next
        rw [Nat.add_right_comm]
        exact links (position + 1) subject signer here next

theorem checkChain_eq_ok_iff {chain : List Certificate} {instant : Nat} {done : Unit} :
    checkChain chain instant = .ok done ↔ ValidPath chain instant := by
  simp only [checkChain, bind_eq_ok_iff, checkAllValid_eq_ok_iff, checkLinks_eq_ok_iff, Nat.zero_add]
  constructor
  · rintro ⟨_, inForce, linked⟩
    exact ⟨inForce, linked⟩
  · rintro ⟨inForce, linked⟩
    exact ⟨(), inForce, linked⟩

theorem MayIssue.mono {issuer : Certificate} {between fewer : Nat}
    (mayIssue : issuer.MayIssue between) (less : fewer ≤ between) : issuer.MayIssue fewer := by
  obtain ⟨octets, constraints, present, read, authority, limits⟩ := mayIssue
  exact ⟨octets, constraints, present, read, authority, fun limit limited =>
    Nat.le_trans less (limits limit limited)⟩

theorem ValidPath.segment {before segment after : List Certificate} {instant : Nat}
    (path : ValidPath (before ++ segment ++ after) instant) : ValidPath segment instant where
  in_force := by
    intro certificate member
    exact path.in_force certificate (by simp [member])
  linked := by
    have shifted {position : Nat} {certificate : Certificate}
        (here : segment[position]? = some certificate) :
        (before ++ segment ++ after)[before.length + position]? = some certificate := by
      obtain ⟨bound, _⟩ := List.getElem?_eq_some_iff.1 here
      rw [List.append_assoc, List.getElem?_append_right (Nat.le_add_right _ _),
        Nat.add_sub_cancel_left, List.getElem?_append_left bound]
      exact here
    intro position certificate issuer here next
    obtain ⟨mayIssue, issued⟩ :=
      path.linked (before.length + position) certificate issuer (shifted here) (shifted next)
    exact ⟨mayIssue.mono (Nat.le_add_left _ _), issued⟩

theorem NoAuthority.not_mayIssue {issuer : Certificate} (none : issuer.NoAuthority) (between : Nat) :
    ¬issuer.MayIssue between := by
  rintro ⟨octets, constraints, present, read, authority, _⟩
  rcases none with missing | ⟨other, unread⟩ | ⟨other, otherRead, refused⟩
  · rw [missing] at present
    cases present
  · rw [other] at present
    cases present
    rw [unread] at read
    cases read
  · rw [other] at present
    cases present
    rw [otherRead] at read
    cases read
    rw [refused] at authority
    cases authority

theorem ValidPath.mayIssue_of_mem_tail {chain : List Certificate} {instant : Nat}
    (path : ValidPath chain instant) {issuer : Certificate} (above : issuer ∈ chain.tail) :
    ∃ between, issuer.MayIssue between := by
  obtain ⟨position, here⟩ := List.mem_iff_getElem?.1 above
  rw [List.getElem?_tail] at here
  obtain ⟨bound, _⟩ := List.getElem?_eq_some_iff.1 here
  have below : chain[position]? = some chain[position] := List.getElem?_eq_getElem (by omega)
  exact ⟨position, (path.linked position _ issuer below here).1⟩

/-- A chain is accepted just when it is a valid path. So is then the chain without its leaf and every
other part of it; and above the leaf there is no certificate that is not an authority. -/
theorem checkChain_accepts_valid_paths (chain : List Certificate) (instant : Nat) :
    (checkChain chain instant = .ok () ↔ ValidPath chain instant) ∧
    (checkChain chain instant = .ok () →
      checkChain chain.tail instant = .ok () ∧
      ∀ before segment after, chain = before ++ segment ++ after →
        checkChain segment instant = .ok ()) ∧
    ∀ issuer ∈ chain.tail, issuer.NoAuthority →
      ∃ error, checkChain chain instant = .error error := by
  refine ⟨checkChain_eq_ok_iff, ?_, ?_⟩
  · intro accepted
    have part (before segment after : List Certificate)
        (split : chain = before ++ segment ++ after) : checkChain segment instant = .ok () := by
      subst split
      exact checkChain_eq_ok_iff.2 (checkChain_eq_ok_iff.1 accepted).segment
    refine ⟨?_, part⟩
    apply part (chain.take 1) chain.tail []
    rw [List.append_nil, ← List.drop_one, List.take_append_drop]
  · intro issuer above none
    cases result : checkChain chain instant with
    | error error => exact ⟨error, rfl⟩
    | ok done =>
      obtain ⟨between, mayIssue⟩ :=
        (checkChain_eq_ok_iff.1 result).mayIssue_of_mem_tail above
      exact absurd mayIssue (none.not_mayIssue between)

end EnclaveProvenance.Certificate
