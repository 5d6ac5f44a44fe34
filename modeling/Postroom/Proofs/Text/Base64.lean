import Postroom.Text.Base64

/-! # Base64 is read back

The text of some bytes has a character for every six bits.  `sextets` are the numbers that the
characters stand for, so a text is read back in two steps: the alphabet gives the numbers again
(`mapM_value?`), and the numbers give the bytes (`bytesOfValues?_sextets`), of which the last one or
two leave bits that are zero.
-/

namespace Postroom.Text.Base64

/-! ### Alphabets -/

/-- The characters of an alphabet are read as what they are written for. -/
def Alphabet.Reads (a : Alphabet) : Prop := ∀ n < 64, a.value? (a.char n) = some n

theorem mailbox_reads : mailbox.Reads := by
  unfold Alphabet.Reads
  decide

/-- What a character of the alphabet of mailbox names can be. -/
theorem mem_mailbox_range {n : Nat} (h : n < 64) :
    '+' ≤ mailbox.char n ∧ mailbox.char n ≤ 'z' ∧ mailbox.char n ≠ '-' ∧ mailbox.char n ≠ '\\' := by
  have hall : ∀ n < 64, '+' ≤ mailbox.char n ∧ mailbox.char n ≤ 'z' ∧
      mailbox.char n ≠ '-' ∧ mailbox.char n ≠ '\\' := by decide
  exact hall n h

/-! ### Numbers of six bits -/

/-- The numbers of six bits in a row of bytes; the last one is filled up with zeros. -/
def sextets : List UInt8 → List Nat
  | x :: y :: z :: rest =>
    let n := x.toNat * 65536 + y.toNat * 256 + z.toNat
    n / 262144 :: n / 4096 % 64 :: n / 64 % 64 :: n % 64 :: sextets rest
  | [x, y] =>
    let n := x.toNat * 1024 + y.toNat * 4
    [n / 4096, n / 64 % 64, n % 64]
  | [x] =>
    let n := x.toNat * 16
    [n / 64, n % 64]
  | [] => []

theorem encode_eq_map (a : Alphabet) (bs : List UInt8) : encode a bs = (sextets bs).map a.char := by
  fun_induction encode a bs with
  | case1 x y z rest n ih => simp [sextets, ih, n]
  | case2 | case3 | case4 => rfl

theorem lt_of_mem_sextets {bs : List UInt8} : ∀ n ∈ sextets bs, n < 64 := by
  fun_induction sextets bs with
  | case1 x y z rest n ih =>
    have hx := x.toNat_lt
    have hy := y.toNat_lt
    have hz := z.toNat_lt
    simp only [List.mem_cons, n]
    rintro m (rfl | rfl | rfl | rfl | hm)
    · omega
    · exact Nat.mod_lt _ (by omega)
    · exact Nat.mod_lt _ (by omega)
    · exact Nat.mod_lt _ (by omega)
    · exact ih m hm
  | case2 x y n =>
    have hx := x.toNat_lt
    have hy := y.toNat_lt
    simp only [List.mem_cons, List.not_mem_nil, or_false, n]
    rintro m (rfl | rfl | rfl) <;> omega
  | case3 x n =>
    have hx := x.toNat_lt
    simp only [List.mem_cons, List.not_mem_nil, or_false, n]
    rintro m (rfl | rfl) <;> omega
  | case4 => simp

/-- The bytes come back from the numbers. -/
theorem bytesOfValues?_sextets (bs : List UInt8) : bytesOfValues? false (sextets bs) = some bs := by
  fun_induction sextets bs with
  | case1 x y z rest n ih =>
    have hx := x.toNat_lt
    have hy := y.toNat_lt
    have hz := z.toNat_lt
    have hwhole : n / 262144 * 262144 + n / 4096 % 64 * 4096 + n / 64 % 64 * 64 + n % 64 = n := by
      omega
    have hfirst : n / 65536 = x.toNat := by omega
    have hsecond : n / 256 % 256 = y.toNat := by omega
    have hthird : n % 256 = z.toNat := by omega
    rw [bytesOfValues?, ih, hwhole, threeBytes, hfirst, hsecond, hthird]
    simp
  | case2 x y n =>
    have hx := x.toNat_lt
    have hy := y.toNat_lt
    have hwhole : n / 4096 * 4096 + n / 64 % 64 * 64 + n % 64 = n := by omega
    -- Two bits are left over; those that were filled in are zero, as the reader asks.
    have hrest : n % 4 = 0 := by omega
    have hfirst : n / 1024 = x.toNat := by omega
    have hsecond : n / 4 % 256 = y.toNat := by omega
    simp only [bytesOfValues?, hwhole, hrest, hfirst, hsecond]
    simp
  | case3 x n =>
    have hx := x.toNat_lt
    have hwhole : n / 64 * 64 + n % 64 = n := by omega
    -- Here four are.
    have hrest : n % 16 = 0 := by omega
    have hfirst : n / 16 = x.toNat := by omega
    simp only [bytesOfValues?, hwhole, hrest, hfirst]
    simp
  | case4 => rfl

theorem mapM_value? {a : Alphabet} (ha : a.Reads) {ns : List Nat} (h : ∀ n ∈ ns, n < 64) :
    (ns.map a.char).mapM a.value? = some ns := by
  induction ns with
  | nil => rfl
  | cons n ns ih =>
    rw [List.map_cons, List.mapM_cons, ha n (h n List.mem_cons_self),
      ih fun m hm => h m (List.mem_cons_of_mem _ hm)]
    rfl

/-- The bytes come back from their text. -/
theorem decode?_encode {a : Alphabet} (ha : a.Reads) (bs : List UInt8) :
    decode? a (encode a bs) = some bs := by
  rw [decode?, encode_eq_map, mapM_value? ha lt_of_mem_sextets, Option.bind_some,
    bytesOfValues?_sextets]

theorem encode_ne_nil (a : Alphabet) {bs : List UInt8} (h : bs ≠ []) : encode a bs ≠ [] := by
  fun_cases encode a bs <;> simp_all

end Postroom.Text.Base64
