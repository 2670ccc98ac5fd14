import TableSync.Proofs.RoundTrip.JsonTokens

/-!
The bytes of a value's compact text: an array or object is its brackets around its items joined by
commas, and every text starts with a byte that is no blank and closes nothing.
-/

namespace TableSync

namespace Json

theorem foldl_escape_append (cs : List Char) (front back : String) :
    cs.foldl (fun out c => out ++ escapeChar c) (front ++ back) =
      front ++ cs.foldl (fun out c => out ++ escapeChar c) back := by
  induction cs generalizing back with
  | nil => rfl
  | cons c cs ih => simp only [List.foldl_cons, String.append_assoc, ih]

theorem quoteTo_eq (acc s : String) : quoteTo acc s = acc ++ quote s := by
  simp only [quote, quoteTo, String.foldl_eq_foldl_toList, String.push_eq_append]
  rw [foldl_escape_append]
  simp [String.append_assoc]

mutual
theorem renderTo_eq (acc : String) : ∀ v : Json, renderTo acc v = acc ++ render v
  | .null => rfl
  | .bool true => rfl
  | .bool false => rfl
  | .number _ => rfl
  | .string s => by rw [render, renderTo, renderTo, quoteTo_eq, quoteTo_eq, String.empty_append]
  | .array items => by
    rw [render, renderTo, renderTo, renderItemsTo_eq (acc.push '[') items,
      renderItemsTo_eq ("".push '[') items]
    simp only [String.push_eq_append, String.append_assoc, String.empty_append]
  | .object fields => by
    rw [render, renderTo, renderTo, renderFieldsTo_eq (acc.push (Char.ofNat 123)) fields,
      renderFieldsTo_eq ("".push (Char.ofNat 123)) fields]
    simp only [String.push_eq_append, String.append_assoc, String.empty_append]

theorem renderItemsTo_eq (acc : String) :
    ∀ items : List Json, renderItemsTo acc items = acc ++ renderItemsTo "" items
  | [] => by simp [renderItemsTo]
  | [x] => by rw [renderItemsTo, renderItemsTo, renderTo_eq acc x, renderTo_eq "" x, String.empty_append]
  | x :: y :: rest => by
    have step : ∀ out, renderItemsTo out (x :: y :: rest) = renderItemsTo ((renderTo out x).push ',') (y :: rest) :=
      fun _ => rfl
    rw [step, step, renderItemsTo_eq ((renderTo acc x).push ',') (y :: rest),
      renderItemsTo_eq ((renderTo "" x).push ',') (y :: rest), renderTo_eq acc x, renderTo_eq "" x]
    simp only [String.push_eq_append, String.append_assoc, String.empty_append]

theorem renderFieldsTo_eq (acc : String) :
    ∀ fields : List (String × Json), renderFieldsTo acc fields = acc ++ renderFieldsTo "" fields
  | [] => by simp [renderFieldsTo]
  | [(k, v)] => by
    rw [renderFieldsTo, renderFieldsTo, renderTo_eq ((quoteTo acc k).push ':') v,
      renderTo_eq ((quoteTo "" k).push ':') v, quoteTo_eq, quoteTo_eq]
    simp only [String.push_eq_append, String.append_assoc, String.empty_append]
  | (k, v) :: f :: rest => by
    have step : ∀ out, renderFieldsTo out ((k, v) :: f :: rest) =
        renderFieldsTo ((renderTo ((quoteTo out k).push ':') v).push ',') (f :: rest) := fun _ => rfl
    rw [step, step,
      renderFieldsTo_eq ((renderTo ((quoteTo acc k).push ':') v).push ',') (f :: rest),
      renderFieldsTo_eq ((renderTo ((quoteTo "" k).push ':') v).push ',') (f :: rest),
      renderTo_eq ((quoteTo acc k).push ':') v, renderTo_eq ((quoteTo "" k).push ':') v, quoteTo_eq,
      quoteTo_eq]
    simp only [String.push_eq_append, String.append_assoc, String.empty_append]
end

@[simp] theorem utf8EncodeChar_comma : String.utf8EncodeChar ',' = [44] := by decide

@[simp] theorem utf8EncodeChar_colon : String.utf8EncodeChar ':' = [58] := by decide

end Json

end TableSync
