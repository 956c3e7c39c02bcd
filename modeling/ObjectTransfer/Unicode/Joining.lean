import ObjectTransfer.Unicode.Composed

/-!
# Joiners

In some scripts a letter is joined to the one before it or to the one after it. Two invisible
characters change that: the joiner asks for a join and the non-joiner forbids it. They make sense
only behind a sign that takes the vowel away, and the non-joiner also between two letters that would
be joined without it; characters that joins pass through do not count.
-/

set_option autoImplicit false

namespace ObjectTransfer.Unicode

def joiningLinesA : List String :=
  ["300-33f=4 342=4 346-34e=4 350-36f=4 483-489=4 591-5bd=4 5bf=4 5c1-5c2=4 5c4-5c5=4 5c7=4",
   "610-61a=4 620=3 622-625=2 626=3 627-628+2 629-62a+2 62b-62e=3 62f-632=2 633-63f=3 641-647=3",
   "648-649+2 64a-64b+3 64c-65f=4 66e-66f=3 670=4 671-673=2 679-687=3 688-699=2 69a-6bf=3",
   "6c0-6c1+2 6c2=3 6c3-6cb=2 6cc=3 6cd-6ce+2 6cf-6d0+2 6d1=3 6d2-6d3=2 6d5=2 6d6-6dc=4",
   "6df-6e4=4 6e7-6e8=4 6ea-6ed=4 6ee-6ef=2 6fa-6fc=3 6ff=3 710=2 711=4 712-714=3 715-719=2",
   "71a-71d=3 71e-71f+2 720-727=3 728-729+2 72a-72b+2 72c-72d+2 72e=3 72f=2 730-74a=4 74d-74e+2",
   "74f-758=3 759-75b=2 75c-76a=3 76b-76c=2 76d-770=3 771-772+2 773-774=2 775-777=3 778-779=2",
   "77a-77f=3 7a6-7b0=4 7ca-7ea=3 7eb-7f3=4 7fd=4 816-819=4 81b-823=4 825-827=4 829-82d=4",
   "840-841+2 842-845=3 846-847=2 848=3 849-84a+2 84b-853=3 854-855+2 856-858=2 859-85b=4 860=3",
   "862-865=3 867-868+2 869-86a=2 870-882=2 886=3 889-88d=3 88e-88f+2 897-89f=4 8a0-8a9=3",
   "8aa-8ac=2 8ae-8af+2 8b0=3 8b1-8b2=2 8b3-8b8=3 8b9-8ba+2 8bb-8c8=3 8ca-8e1=4 8e3-902=4 93a=4",
   "93c=4 941-948=4 94d=4 951-957=4 962-963=4 981=4 9bc=4 9c1-9c4=4 9cd=4 9e2-9e3=4 9fe=4",
   "a01-a02=4 a3c=4 a41-a42=4 a47-a48=4 a4b-a4d=4 a51=4 a70-a71=4 a75=4 a81-a82=4 abc=4",
   "ac1-ac5=4 ac7-ac8=4 acd=4 ae2-ae3=4 afa-aff=4 b01=4 b3c=4 b3f=4 b41-b44=4 b4d=4 b53-b56=4",
   "b62-b63=4 b82=4 bc0=4 bcd=4 c00=4 c04=4 c3c=4 c3e-c40=4 c46-c48=4 c4a-c4d=4 c55-c56=4",
   "c62-c63=4 c81=4 cbc=4 cbf=4 cc6=4 ccc-ccd=4 ce2-ce3=4 d00-d01=4 d3b-d3c=4 d41-d44=4 d4d=4",
   "d62-d63=4 d81=4 dca=4 dd2-dd4=4 dd6=4 e31=4 e34-e3a=4 e47-e4e=4 eb1=4 eb4-ebc=4 ec8-ece=4",
   "f18-f19=4 f35=4 f37=4 f39=4 f71-f72=4 f74=4 f7a-f7e=4 f80=4 f82-f84=4 f86-f87=4 f8d-f92=4",
   "f94-f97=4 f99-f9c=4 f9e-fa1=4 fa3-fa6=4 fa8-fab=4 fad-fb8=4 fba-fbc=4 fc6=4 102d-1030=4",
   "1032-1037=4 1039-103a=4 103d-103e=4 1058-1059=4 105e-1060=4 1071-1074=4 1082=4 1085-1086=4",
   "108d=4 109d=4 135d-135f=4 1712-1714=4 1732-1733=4 1752-1753=4 1772-1773=4 17b7-17bd=4 17c6=4",
   "17c9-17d3=4 17dd=4 1807=3 1820-1878=3 1885-1886=4 1887-18a8=3 18a9=4 18aa=3 1920-1922=4",
   "1927-1928=4 1932=4 1939-193b=4 1a17-1a18=4 1a1b=4 1a56=4 1a58-1a5e=4 1a60=4 1a62=4",
   "1a65-1a6c=4 1a73-1a7c=4 1a7f=4 1ab0-1aeb=4 1b00-1b03=4 1b34=4 1b36-1b39=4 1b3c=4 1b42=4",
   "1b6b-1b73=4 1b80-1b81=4 1ba2-1ba5=4 1ba8-1ba9=4 1bab-1bad=4 1be6=4 1be8-1be9=4 1bed=4",
   "1bef-1bf1=4 1c2c-1c33=4 1c36-1c37=4 1cd0-1cd2=4 1cd4-1ce0=4 1ce2-1ce8=4 1ced=4 1cf4=4",
   "1cf8-1cf9=4 1dc0-1dff=4 20d0-20f0=4 2cef-2cf1=4 2d7f=4 2de0-2dff=4 302a-302d=4 3099-309a=4",
   "a66f-a672=4 a674-a67d=4 a69e-a69f=4 a6f0-a6f1=4 a802=4 a806=4 a80b=4 a825-a826=4 a82c=4",
   "a840-a871=3 a872=1 a8c4-a8c5=4 a8e0-a8f1=4 a8ff=4 a926-a92d=4 a947-a951=4 a980-a982=4 a9b3=4",
   "a9b6-a9b9=4 a9bc-a9bd=4 a9e5=4 aa29-aa2e=4 aa31-aa32=4 aa35-aa36=4 aa43=4 aa4c=4 aa7c=4",
   "aab0=4 aab2-aab4=4 aab7-aab8=4 aabe-aabf=4 aac1=4 aaec-aaed=4 aaf6=4 abe5=4 abe8=4 abed=4",
   "fb1e=4 fe20-fe2f=4 101fd=4 102e0=4 10376-1037a=4 10a01-10a03=4 10a05-10a06=4 10a0c-10a0f=4",
   "10a38-10a3a=4 10a3f=4 10ac0-10ac4=3 10ac5=2 10ac7=2 10ac9-10aca=2 10acd-10ace+1",
   "10acf-10ad2=2 10ad3-10ad6=3 10ad7=1 10ad8-10adc=3 10add-10ade+2 10adf-10ae0=3 10ae1=2",
   "10ae4=2 10ae5-10ae6=4 10aeb-10aee=3 10aef=2 10b80=3 10b81-10b82+2 10b83-10b85=2",
   "10b86-10b88=3 10b89-10b8a+2 10b8b=3 10b8c-10b8d+2 10b8e-10b8f=2 10b90=3 10b91=2",
   "10ba9-10bac=2 10bad-10bae=3 10d00=1 10d01-10d21=3 10d22-10d24+2 10d25-10d27=4 10d69-10d6d=4",
   "10eab-10eac=4 10ec2-10ec3+2 10ec4=3 10ec6-10ec7=3 10ed9=3 10efa-10eff=4 10f30-10f32=3",
   "10f33-10f34+2 10f35-10f44=3 10f46-10f50=4 10f51-10f53=3 10f54=2 10f70-10f73=3 10f74-10f75=2",
   "10f76-10f81=3 10f82-10f85=4 10fb0=3 10fb2-10fb3=3 10fb4-10fb6=2 10fb8=3 10fb9-10fba=2",
   "10fbb-10fbc=3 10fbd-10fbe+2 10fbf=3 10fc1=3 10fc2-10fc3=2 10fc4=3 10fc9-10fca+2 10fcb=1",
   "11001=4 11038-11046=4 11070=4 11073-11074=4 1107f-11081=4 110b3-110b6=4 110b9-110ba=4",
   "110c2=4 11100-11102=4 11127-1112b=4 1112d-11134=4 11173=4 11180-11181=4 111b6-111be=4",
   "111c9-111cc=4 111cf=4 1122f-11231=4 11234=4 11236-11237=4 1123e=4 11241=4 112df=4",
   "112e3-112ea=4 11300-11301=4 1133b-1133c=4 11340=4 11366-1136c=4 11370-11374=4 113bb-113c0=4",
   "113ce=4 113d0=4 113d2=4 113e1-113e2=4 11438-1143f=4 11442-11444=4 11446=4 1145e=4",
   "114b3-114b8=4 114ba=4 114bf-114c0=4 114c2-114c3=4 115b2-115b5=4 115bc-115bd=4 115bf-115c0=4",
   "115dc-115dd=4 11633-1163a=4 1163d=4 1163f-11640=4 116ab=4 116ad=4 116b0-116b5=4 116b7=4",
   "1171d=4 1171f=4 11722-11725=4 11727-1172b=4 1182f-11837=4 11839-1183a=4 1193b-1193c=4",
   "1193e=4 11943=4 119d4-119d7=4 119da-119db=4 119e0=4 11a01-11a0a=4 11a33-11a38=4",
   "11a3b-11a3e=4 11a47=4 11a51-11a56=4 11a59-11a5b=4 11a8a-11a96=4 11a98-11a99=4 11b60=4",
   "11b62-11b64=4 11b66=4 11c30-11c36=4 11c38-11c3d=4 11c3f=4 11c92-11ca7=4 11caa-11cb0=4",
   "11cb2-11cb3=4 11cb5-11cb6=4 11d31-11d36=4 11d3a=4 11d3c-11d3d=4 11d3f-11d45=4 11d47=4",
   "11d90-11d91=4 11d95=4 11d97=4 11ef3-11ef4=4 11f00-11f01=4 11f36-11f3a=4 11f40=4 11f42=4",
   "11f5a=4 13440=4 13447-13455=4 1611e-16129=4 1612d-1612f=4 16af0-16af4=4 16b30-16b36=4",
   "16f4f=4 16f8f-16f92=4 16fe4=4 1bc9d-1bc9e=4 1cf00-1cf2d=4 1cf30-1cf46=4 1d167-1d169=4",
   "1d17b-1d182=4 1d185-1d18b=4 1d1aa-1d1ad=4 1d242-1d244=4 1da00-1da36=4 1da3b-1da6c=4 1da75=4",
   "1da84=4 1da9b-1da9f=4 1daa1-1daaf=4 1e000-1e006=4 1e008-1e018=4 1e01b-1e021=4 1e023-1e024=4",
   "1e026-1e02a=4 1e08f=4 1e130-1e136=4 1e2ae=4 1e2ec-1e2ef=4 1e4ec-1e4ef=4 1e5ee-1e5ef=4",
   "1e6e3=4 1e6e6=4 1e6ee-1e6ef=4 1e6f5=4 1e8d0-1e8d6=4 1e922-1e943=3 1e944-1e94b=4"]

/-- How characters join: to the next one (1), to the one before (2), to both (3), or not at all and
without being in the way (4). -/
def joiningLines : List String :=
  joiningLinesA

def joinings : Spans := readLines joiningLines

def joining (c : Char) : Nat := if c.toNat < 128 then 0 else joinings.classOf c.toNat

def isPassed (c : Char) : Bool := joining c == 4

def joinsNext (c : Char) : Bool := joining c == 1 || joining c == 3

def joinsBefore (c : Char) : Bool := joining c == 2 || joining c == 3

def nonJoiner : Char := Char.ofNat 0x200c

def joiner : Char := Char.ofNat 0x200d

/-- The class of the signs that take a vowel away. -/
def vowelKiller : Nat := 9

/-- Whether the joiners after the characters `before`, the last one first, make sense. -/
def joinersFit (before : List Char) : List Char → Bool
  | [] => true
  | c :: rest =>
    (if c = joiner ∨ c = nonJoiner then
      (before.head?.any fun last => markClass last.toNat == vowelKiller) ||
        (c = nonJoiner && (before.dropWhile isPassed).head?.any joinsNext &&
          (rest.dropWhile isPassed).head?.any joinsBefore)
    else true) && joinersFit (c :: before) rest

end ObjectTransfer.Unicode
