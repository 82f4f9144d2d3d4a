import Fsw.Buffer.Impl.Buffer

/-!
This module contains the tables of `nghttp2_hd.c` that never change: the fields with fixed indices
and the names that have a token. A token that is less than `NGHTTP2_STATIC_TABLE_LENGTH` is the
first index with its name.
-/

namespace Fsw
namespace Hpack

def STATIC_TABLE_LENGTH : Nat := 61

namespace Token

def PATH : Int := 3
def AGE : Int := 20
def AUTHORIZATION : Int := 22
def CONTENT_LENGTH : Int := 27
def COOKIE : Int := 31
def ETAG : Int := 33
def IF_MODIFIED_SINCE : Int := 39
def IF_NONE_MATCH : Int := 40
def LOCATION : Int := 45
def SET_COOKIE : Int := 54
def WWW_AUTHENTICATE : Int := 60

end Token

structure StaticEntry where
  name : Bytes
  value : Bytes
  token : Int
  hash : BitVec 32
  deriving DecidableEq, Repr

def staticTable : List StaticEntry :=
  let entry (name value : String) (token : Int) (hash : BitVec 32) : StaticEntry :=
    ⟨Buffer.str name, Buffer.str value, token, hash⟩
  [
    entry ":authority" "" 0 3153725150,
    entry ":method" "GET" 1 695666056,
    entry ":method" "POST" 1 695666056,
    entry ":path" "/" 3 3292848686,
    entry ":path" "/index.html" 3 3292848686,
    entry ":scheme" "http" 5 2510477674,
    entry ":scheme" "https" 5 2510477674,
    entry ":status" "200" 7 4000288983,
    entry ":status" "204" 7 4000288983,
    entry ":status" "206" 7 4000288983,
    entry ":status" "304" 7 4000288983,
    entry ":status" "400" 7 4000288983,
    entry ":status" "404" 7 4000288983,
    entry ":status" "500" 7 4000288983,
    entry "accept-charset" "" 14 3664010344,
    entry "accept-encoding" "gzip, deflate" 15 3379649177,
    entry "accept-language" "" 16 1979086614,
    entry "accept-ranges" "" 17 1713753958,
    entry "accept" "" 18 136609321,
    entry "access-control-allow-origin" "" 19 2710797292,
    entry "age" "" 20 742476188,
    entry "allow" "" 21 2930878514,
    entry "authorization" "" 22 2436257726,
    entry "cache-control" "" 23 1355326669,
    entry "content-disposition" "" 24 3889184348,
    entry "content-encoding" "" 25 65203592,
    entry "content-language" "" 26 24973587,
    entry "content-length" "" 27 1308181789,
    entry "content-location" "" 28 2302364718,
    entry "content-range" "" 29 3555523146,
    entry "content-type" "" 30 4244048277,
    entry "cookie" "" 31 2007449791,
    entry "date" "" 32 3564297305,
    entry "etag" "" 33 113792960,
    entry "expect" "" 34 2530896728,
    entry "expires" "" 35 1049544579,
    entry "from" "" 36 2513272949,
    entry "host" "" 37 2952701295,
    entry "if-match" "" 38 3597694698,
    entry "if-modified-since" "" 39 2213050793,
    entry "if-none-match" "" 40 2536202615,
    entry "if-range" "" 41 2340978238,
    entry "if-unmodified-since" "" 42 3794814858,
    entry "last-modified" "" 43 3226950251,
    entry "link" "" 44 232457833,
    entry "location" "" 45 200649126,
    entry "max-forwards" "" 46 1826162134,
    entry "proxy-authenticate" "" 47 2709445359,
    entry "proxy-authorization" "" 48 2686392507,
    entry "range" "" 49 4208725202,
    entry "referer" "" 50 3969579366,
    entry "refresh" "" 51 3572655668,
    entry "retry-after" "" 52 3336180598,
    entry "server" "" 53 1085029842,
    entry "set-cookie" "" 54 1848371000,
    entry "strict-transport-security" "" 55 4138147361,
    entry "transfer-encoding" "" 56 3719590988,
    entry "user-agent" "" 57 606444526,
    entry "vary" "" 58 1085005381,
    entry "via" "" 59 1762798611,
    entry "www-authenticate" "" 60 779865858]

-- A `case` for `namelen`, in it one for the last character, and in that one a comparison with what
-- is before it
structure TokenRow where
  namelen : Nat
  last : UInt8
  text : Bytes
  token : Int
  deriving DecidableEq, Repr

def tokenRows : List TokenRow :=
  let row (namelen : Nat) (last : Char) (text : String) (token : Int) : TokenRow :=
    ⟨namelen, .ofNat last.toNat, Buffer.str text, token⟩
  [
    row 2 'e' "t" 61,
    row 3 'a' "vi" 59,
    row 3 'e' "ag" 20,
    row 4 'e' "dat" 32,
    row 4 'g' "eta" 33,
    row 4 'k' "lin" 44,
    row 4 'm' "fro" 36,
    row 4 't' "hos" 37,
    row 4 'y' "var" 58,
    row 5 'e' "rang" 49,
    row 5 'h' ":pat" 3,
    row 5 'w' "allo" 21,
    row 6 'e' "cooki" 31,
    row 6 'r' "serve" 53,
    row 6 't' "accep" 18,
    row 6 't' "expec" 34,
    row 7 'd' ":metho" 1,
    row 7 'e' ":schem" 5,
    row 7 'e' "upgrad" 65,
    row 7 'h' "refres" 51,
    row 7 'r' "refere" 50,
    row 7 's' ":statu" 7,
    row 7 's' "expire" 35,
    row 8 'e' "if-rang" 41,
    row 8 'h' "if-matc" 38,
    row 8 'n' "locatio" 45,
    row 10 'e' "keep-aliv" 63,
    row 10 'e' "set-cooki" 54,
    row 10 'n' "connectio" 62,
    row 10 't' "user-agen" 57,
    row 10 'y' ":authorit" 0,
    row 11 'r' "retry-afte" 52,
    row 12 'e' "content-typ" 30,
    row 12 's' "max-forward" 46,
    row 13 'd' "last-modifie" 43,
    row 13 'e' "content-rang" 29,
    row 13 'h' "if-none-matc" 40,
    row 13 'l' "cache-contro" 23,
    row 13 'n' "authorizatio" 22,
    row 13 's' "accept-range" 17,
    row 14 'h' "content-lengt" 27,
    row 14 't' "accept-charse" 14,
    row 15 'e' "accept-languag" 16,
    row 15 'g' "accept-encodin" 15,
    row 16 'e' "content-languag" 26,
    row 16 'e' "www-authenticat" 60,
    row 16 'g' "content-encodin" 25,
    row 16 'n' "content-locatio" 28,
    row 16 'n' "proxy-connectio" 64,
    row 17 'e' "if-modified-sinc" 39,
    row 17 'g' "transfer-encodin" 56,
    row 18 'e' "proxy-authenticat" 47,
    row 19 'e' "if-unmodified-sinc" 42,
    row 19 'n' "content-dispositio" 24,
    row 19 'n' "proxy-authorizatio" 48,
    row 25 'y' "strict-transport-securit" 55,
    row 27 'n' "access-control-allow-origi" 19]

def TokenRow.matches (row : TokenRow) (name : Bytes) : Bool :=
  name.length = row.namelen && name.getLast? = some row.last
    && name.take (row.namelen - 1) = row.text

def lookupToken (name : Bytes) : Int :=
  match tokenRows.find? (·.matches name) with
  | some row => row.token
  | none => -1

end Hpack
end Fsw
