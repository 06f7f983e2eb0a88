/-!
# Sample data

The bytes that the checksum, digest and filter kernels work on, and the output of the filter as it was
written down once, to six decimals.
-/
namespace BenchSuite.Sample

/-- **The input of the suite**: 1024 bytes.  The golden values are about exactly these. -/
def payload : List UInt8 := [
  0x89, 0x1c, 0xc4, 0xaa, 0x04, 0xe3, 0xd9, 0xe1, 0x70, 0x94, 0x29, 0x35, 0x2a, 0xe2, 0xe8, 0x24,
  0xd7, 0xc3, 0xa9, 0x11, 0x2a, 0xce, 0xda, 0xfd, 0x4b, 0xe7, 0x86, 0x0a, 0xc4, 0x3d, 0x23, 0x03,
  0x34, 0x05, 0x37, 0xd1, 0x08, 0xe3, 0x01, 0xb1, 0xfd, 0xb6, 0x45, 0xa3, 0xa4, 0x03, 0x64, 0x85,
  0xeb, 0x15, 0x4f, 0xf1, 0xd3, 0x40, 0x0c, 0xa6, 0x89, 0x2b, 0x40, 0xaf, 0x7c, 0x96, 0x41, 0x91,
  0x31, 0x24, 0xac, 0xd2, 0x5d, 0xe6, 0x46, 0x91, 0x98, 0xcf, 0xaa, 0x67, 0xe3, 0x4e, 0xb1, 0xa6,
  0x03, 0x18, 0x96, 0xb3, 0x7b, 0xa0, 0x67, 0x4c, 0x09, 0x0d, 0x75, 0xc8, 0xcc, 0xa0, 0xed, 0xbd,
  0xb7, 0x4d, 0x08, 0xda, 0x93, 0x14, 0xef, 0xd1, 0x80, 0x61, 0xa0, 0x8d, 0xe1, 0xc7, 0x08, 0x35,
  0xbf, 0x19, 0x2c, 0x81, 0xc8, 0x09, 0xab, 0xe7, 0xe1, 0x77, 0x47, 0x77, 0x49, 0xec, 0x41, 0x6a,
  0x0f, 0x5e, 0x89, 0xe6, 0xe2, 0xb9, 0x00, 0xc8, 0xb8, 0x31, 0xc4, 0x0a, 0x93, 0x64, 0x5b, 0xf3,
  0x5d, 0xe3, 0x17, 0xaf, 0xc3, 0x97, 0x81, 0x9d, 0x1c, 0xd9, 0x1d, 0xf8, 0x3b, 0xc4, 0x80, 0x52,
  0x78, 0x95, 0xee, 0xe9, 0x4f, 0x1a, 0x6d, 0x39, 0xf5, 0x7b, 0x93, 0x37, 0xa1, 0xb7, 0x3b, 0x70,
  0xe8, 0x95, 0x47, 0x30, 0x47, 0xcd, 0xba, 0xee, 0xc0, 0xb1, 0x17, 0x68, 0xdc, 0x8f, 0x24, 0x4a,
  0x1a, 0x36, 0xc8, 0xa2, 0x38, 0xe7, 0x32, 0xb0, 0x42, 0x67, 0x53, 0x93, 0x6a, 0x8b, 0x04, 0x88,
  0x77, 0x36, 0x71, 0x7b, 0x3a, 0x8e, 0x67, 0x64, 0x24, 0x48, 0xd6, 0x87, 0x12, 0x06, 0x65, 0x2f,
  0xf6, 0x2c, 0x41, 0x25, 0x51, 0x2e, 0xbb, 0xcd, 0x7e, 0x31, 0x00, 0x34, 0x4b, 0x4e, 0x00, 0x97,
  0x58, 0x9d, 0xae, 0x16, 0xd6, 0xdd, 0xf4, 0x0d, 0x0b, 0x0f, 0x36, 0x4e, 0x41, 0x79, 0x3a, 0xf4,
  0x7c, 0xe9, 0x04, 0xf0, 0x9a, 0x1e, 0x1b, 0x84, 0xef, 0x59, 0x07, 0xe4, 0x80, 0x6c, 0xd1, 0x35,
  0xf5, 0xee, 0x8c, 0xcb, 0x24, 0xed, 0x08, 0xc6, 0xa6, 0xd0, 0xf0, 0x98, 0x05, 0x41, 0x61, 0xb0,
  0x31, 0x3e, 0xc0, 0x99, 0x67, 0x78, 0x1b, 0xd7, 0xfd, 0x73, 0x3f, 0x65, 0x6a, 0x78, 0x3d, 0x43,
  0x80, 0x50, 0xbf, 0xd0, 0x71, 0x98, 0x06, 0x29, 0xa0, 0x24, 0x65, 0xf5, 0xaf, 0xe7, 0x46, 0x5c,
  0x39, 0x7c, 0x13, 0x53, 0x72, 0x64, 0xd6, 0x14, 0x24, 0x90, 0x17, 0x09, 0x60, 0x8b, 0x01, 0xe8,
  0x72, 0x30, 0x9d, 0x31, 0xe1, 0x9b, 0x35, 0x82, 0x4e, 0xa4, 0x42, 0x38, 0xed, 0xa6, 0x6a, 0x49,
  0x72, 0x0b, 0x53, 0x83, 0xb4, 0x98, 0x10, 0xb1, 0x81, 0xee, 0xaf, 0xe0, 0xa5, 0xb0, 0xfb, 0x40,
  0x92, 0xf4, 0x97, 0x27, 0x8d, 0xce, 0xb7, 0xa5, 0x3d, 0x36, 0x6a, 0x51, 0x1a, 0x0d, 0x60, 0x44,
  0xf9, 0xb1, 0x7c, 0xab, 0x46, 0xe2, 0x33, 0x13, 0x8a, 0x0e, 0x45, 0xcf, 0x0c, 0x75, 0xeb, 0xbd,
  0x2f, 0x0f, 0x9b, 0x9f, 0xf4, 0xb0, 0xfd, 0x60, 0xdf, 0x68, 0x5c, 0x39, 0x7b, 0x1b, 0x95, 0xb7,
  0x72, 0x66, 0xb9, 0xe3, 0xfa, 0x86, 0x7c, 0x71, 0x99, 0x25, 0x97, 0x98, 0x06, 0x1e, 0x67, 0x94,
  0xbb, 0x5c, 0xba, 0x1a, 0xef, 0x4e, 0xf3, 0xe5, 0xc3, 0x5b, 0x60, 0x21, 0x69, 0x01, 0x96, 0xde,
  0xbb, 0x6b, 0xaa, 0xf9, 0xdc, 0xbb, 0x3e, 0x19, 0xd1, 0x9f, 0x42, 0x2c, 0xba, 0xf8, 0xfc, 0xfb,
  0x0b, 0x7e, 0x31, 0x71, 0x68, 0x70, 0xab, 0x56, 0x11, 0x9d, 0x95, 0xb6, 0x2e, 0x0c, 0xb6, 0x02,
  0x1a, 0x4e, 0xb0, 0x44, 0xb6, 0xb3, 0x17, 0x84, 0x78, 0x31, 0x9d, 0x57, 0x47, 0xed, 0x1d, 0x83,
  0xe2, 0x20, 0x7c, 0x56, 0x1d, 0xb7, 0xf0, 0xf5, 0x3b, 0x0d, 0xc2, 0x9a, 0x50, 0x5e, 0x4e, 0xad,
  0x2c, 0xd7, 0x59, 0x27, 0x2a, 0xf4, 0xa1, 0x73, 0x59, 0xa9, 0x72, 0x52, 0x22, 0x9e, 0x5e, 0xc5,
  0x99, 0x23, 0x15, 0x96, 0x0f, 0x18, 0xee, 0x8d, 0x57, 0x0c, 0x9f, 0x7b, 0xcf, 0xaa, 0xd1, 0x04,
  0x64, 0x74, 0x76, 0x52, 0x62, 0x1a, 0x9c, 0x33, 0x04, 0xed, 0x11, 0x9a, 0x2e, 0xb9, 0xe9, 0xac,
  0x86, 0xa4, 0x1f, 0xda, 0xe8, 0xd3, 0x25, 0xd6, 0x7b, 0x56, 0x17, 0x8e, 0xea, 0x1f, 0xc2, 0xde,
  0xd0, 0x04, 0x0c, 0x8f, 0xfd, 0x39, 0x07, 0xc6, 0xe1, 0x54, 0x73, 0x5a, 0xb1, 0xd2, 0x83, 0x36,
  0x28, 0x48, 0x92, 0x97, 0x37, 0x95, 0xf6, 0xb6, 0x7d, 0x72, 0x3e, 0x94, 0xa2, 0xf1, 0x03, 0xa7,
  0x86, 0x69, 0x58, 0xb5, 0x39, 0x6b, 0x51, 0x9f, 0xba, 0x4f, 0xe1, 0x34, 0xc1, 0x5e, 0xa7, 0xb1,
  0x98, 0xaa, 0xa6, 0x3e, 0x78, 0x60, 0x03, 0x06, 0x26, 0x7a, 0x35, 0x38, 0x31, 0x16, 0x1e, 0x66,
  0xef, 0x1e, 0xf9, 0x26, 0xeb, 0xb2, 0x12, 0x8a, 0xde, 0x54, 0x38, 0x56, 0x12, 0x78, 0xd8, 0x27,
  0x91, 0x95, 0x07, 0xf2, 0x93, 0x86, 0xd5, 0xdd, 0x18, 0x63, 0xdb, 0xb4, 0x77, 0xde, 0xa7, 0xd4,
  0x71, 0x47, 0x55, 0xc5, 0x0d, 0x98, 0x8e, 0x82, 0x64, 0x30, 0xb3, 0xf3, 0x9c, 0x87, 0x00, 0x86,
  0x6b, 0x79, 0x82, 0xe2, 0xb4, 0x29, 0x3c, 0x7d, 0x6f, 0x28, 0x05, 0x9f, 0xf4, 0x87, 0xda, 0xf0,
  0x15, 0x69, 0x33, 0xf6, 0xfd, 0xe9, 0x22, 0x94, 0x92, 0x75, 0x91, 0xb6, 0x38, 0xe2, 0x55, 0x9a,
  0xa2, 0x17, 0xe6, 0x35, 0x66, 0x67, 0xc0, 0xe0, 0x44, 0xf3, 0x47, 0x0d, 0x01, 0xfd, 0xce, 0xc4,
  0x6c, 0x48, 0xc4, 0x88, 0x94, 0x66, 0x62, 0xa3, 0xd0, 0x5d, 0x96, 0x54, 0x81, 0xea, 0xe5, 0x8d,
  0xe6, 0x38, 0x3d, 0xc0, 0xd4, 0x29, 0x06, 0x09, 0x1f, 0xf4, 0xc7, 0xda, 0x34, 0x8d, 0x84, 0x21,
  0xfc, 0x65, 0xa2, 0x15, 0x97, 0x89, 0x1c, 0x3b, 0x82, 0x18, 0x98, 0x77, 0x7f, 0x01, 0x68, 0x69,
  0x6e, 0xf3, 0xe2, 0xd3, 0xc2, 0x22, 0xad, 0xfc, 0xaf, 0x3c, 0x10, 0x58, 0x47, 0xe8, 0xd6, 0x9d,
  0xb0, 0x63, 0x15, 0x63, 0xeb, 0x67, 0xb6, 0xf1, 0xdd, 0x0f, 0x5c, 0xd7, 0xa0, 0x8d, 0xe1, 0x59,
  0x22, 0xb1, 0x10, 0x80, 0x78, 0x87, 0x89, 0x6d, 0xd0, 0x13, 0xaa, 0x54, 0x3d, 0x49, 0x57, 0x3f,
  0x08, 0x89, 0x9e, 0x27, 0x01, 0x29, 0x7e, 0x80, 0x0b, 0xca, 0x1d, 0xd6, 0x21, 0x3f, 0xc1, 0x02,
  0x0d, 0x7c, 0xec, 0x62, 0xcc, 0x06, 0x6c, 0x7d, 0x1d, 0x3f, 0x14, 0xab, 0x35, 0x3e, 0x13, 0xde,
  0xdb, 0xac, 0x81, 0x8e, 0x2d, 0x61, 0xe9, 0xac, 0x20, 0x52, 0x5b, 0x95, 0x1b, 0x7b, 0xf7, 0x92,
  0x84, 0x80, 0x17, 0x42, 0xad, 0xf6, 0x7a, 0xed, 0x42, 0xc9, 0xd2, 0x52, 0x48, 0x3f, 0x64, 0x56,
  0xea, 0xcf, 0x60, 0xc4, 0xaa, 0xdb, 0xcd, 0x1c, 0x48, 0xae, 0x0d, 0xfd, 0x13, 0x6a, 0xaa, 0xda,
  0xd8, 0x38, 0x27, 0x21, 0xe8, 0xd0, 0xf0, 0x36, 0xd0, 0xcc, 0xbc, 0x5f, 0x5f, 0x59, 0xaa, 0x8c,
  0xec, 0x06, 0xdd, 0x65, 0xe5, 0x37, 0x9f, 0x06, 0x8f, 0xce, 0x46, 0xbd, 0x13, 0x7c, 0x6a, 0x82,
  0x51, 0x9d, 0xad, 0xa3, 0x03, 0x83, 0x7d, 0x96, 0x0b, 0x15, 0x50, 0xbd, 0x4e, 0x7f, 0x52, 0x73,
  0xd4, 0xd2, 0x1d, 0xd5, 0x99, 0xbb, 0x3f, 0x33, 0x03, 0x7e, 0x6f, 0x40, 0x7f, 0xac, 0x44, 0x4a,
  0xc1, 0xce, 0x9d, 0x11, 0x7c, 0x49, 0x6a, 0x5d, 0x78, 0x2a, 0xbb, 0xd3, 0xc3, 0xb2, 0xb7, 0x41,
  0xf1, 0x1f, 0x48, 0xa4, 0x42, 0x55, 0xdf, 0xbc, 0x77, 0x52, 0x76, 0x07, 0x01, 0xf9, 0xaa, 0x41,
  0xf8, 0x7a, 0x49, 0xf4, 0x35, 0x75, 0x7b, 0x32, 0xea, 0x64, 0xd8, 0xbb, 0xe6, 0xb7, 0xed, 0x6d]

/-- The words of the reference output. -/
def referenceWords : List UInt32 := [
  0x41ade808, 0x42963505, 0x430fc779, 0x43686e12, 0x4394f056, 0x439af5ec, 0x43a60dc6, 0x43c1613c,
  0x43d50234, 0x43d033f7, 0x43b3bd5f, 0x4385993d, 0x4327f28c, 0x42f39b95, 0x432fdcac, 0x43865275,
  0x43a1296d, 0x43b4aca9, 0x43c764b1, 0x43c261b3, 0x4399b38c, 0x435cf7c1, 0x4357321c, 0x43914408,
  0x43ba5424, 0x43cc081f, 0x43ceb236, 0x43bb83b6, 0x4395757e, 0x43729b09, 0x43444483, 0x43064d79,
  0x42973165, 0x421c0e59, 0x41d0c823, 0x427b052d, 0x430c8e5f, 0x43553dca, 0x4383b625, 0x438abb96,
  0x4395d8ab, 0x43b44d50, 0x43c61efc, 0x43bbada5, 0x43aaecc1, 0x4396842b, 0x4368bb93, 0x433411e9,
  0x43418921, 0x4372c377, 0x437e7361, 0x437c5b23, 0x43959b1a, 0x43afe77a, 0x43a62cc7, 0x4383f604,
  0x4360fd62, 0x4355f6e4, 0x433e52bd, 0x43302355, 0x4349c420, 0x43771bf7, 0x438a3fa2, 0x438b2c72,
  0x4382a541, 0x435b1e3d, 0x4331e8da, 0x434484ba, 0x4380ad03, 0x439cf428, 0x43af7a8b, 0x43aea4e6,
  0x43a340c6, 0x43a0e35f, 0x43aa7e87, 0x43b0f970, 0x43b01b57, 0x43ae0638, 0x43a5f17b, 0x439ffd37,
  0x43962160, 0x4367f621, 0x431e1b10, 0x4316f09d, 0x434a980c, 0x4383e65e, 0x4398fb13, 0x439a6418,
  0x4382873b, 0x432eec89, 0x42c8cc54, 0x42ca0917, 0x4339f01f, 0x4395a046, 0x43c4bff7, 0x43e5adc0,
  0x43f32825, 0x43e4df18, 0x43b4e1e3, 0x437bf076, 0x4353682c, 0x43534b07, 0x43587366, 0x4385c666,
  0x43aa8192, 0x43b8cdcc, 0x43b04a9f, 0x43a3dfa2, 0x43a1a34d, 0x43af6098, 0x43b52a09, 0x43981a85,
  0x4367149b, 0x4343f268, 0x4324269b, 0x4308bd51, 0x4321117b, 0x435429bd, 0x436f2383, 0x4389ce6c,
  0x43af25f7, 0x43cf4a8b, 0x43ce0120, 0x43aea2e1, 0x43884551, 0x4365b500, 0x436b4fa5, 0x4373cc43,
  0x435eca8e, 0x43360d88, 0x432006da, 0x4343a709, 0x438ff65e, 0x43c36d22, 0x43d51add, 0x43be6320,
  0x43a81e65, 0x439b498e, 0x438c5db5, 0x437d2254, 0x435cf1e2, 0x434a4217, 0x4349d9fa, 0x43615863,
  0x438afa26, 0x43a4599f, 0x43aee6c3, 0x43a49201, 0x439b69d7, 0x43a157a6, 0x43a69d09, 0x43a5358c,
  0x43990a24, 0x438755bb, 0x437959ea, 0x437717e4, 0x4384ca9d, 0x438f3911, 0x4398923d, 0x439affa7,
  0x438f40e1, 0x4383ec0c, 0x438ad6c4, 0x43a9b2cc, 0x43c69054, 0x43bcc848, 0x4392c161, 0x4350c144,
  0x432f2297, 0x435365f5, 0x438701fc, 0x4394980b, 0x43914e18, 0x43910b38, 0x43949321, 0x438b684f,
  0x43861bed, 0x4395259d, 0x43a10174, 0x4392d7ac, 0x43654b08, 0x433d23e1, 0x43593a46, 0x4394dfb1,
  0x43c2a653, 0x43e18f13, 0x43dcfb9e, 0x43b33170, 0x438b44f4, 0x4382df87, 0x4382a836, 0x4365cb13,
  0x43321395, 0x42fbb0cc, 0x42e26054, 0x432a9c23, 0x43739ca0, 0x4391d51f, 0x43a0f4fa, 0x43a1eb3c,
  0x4397c61f, 0x43860a51, 0x4361ea4c, 0x434a389c, 0x434e3ba7, 0x43628f7d, 0x4368563b, 0x4353ce6d,
  0x4348c075, 0x434b5e3b, 0x4346b592, 0x434973b5, 0x4351a54a, 0x4354aed8, 0x435e2a32, 0x4368d72c,
  0x435fb882, 0x433f6a96, 0x4333cc0e, 0x435d22fb, 0x438108ed, 0x43662053, 0x4327ba6e, 0x42f93f35,
  0x4306491a, 0x43406c52, 0x4366a805, 0x4358e8ee, 0x43344876, 0x4311f2fe, 0x430d3fed, 0x43442885,
  0x438d77ee, 0x43a3876e, 0x43911086, 0x43485aa1, 0x42f13c9b, 0x42abda20, 0x429c9003, 0x42aeac44,
  0x430060e5, 0x433dad0b, 0x438143d0, 0x4397b3fe, 0x43997018, 0x43a252dc, 0x43bea82f, 0x43cf1df7,
  0x43b14040, 0x43612fde, 0x42ce6d97, 0x42184c43, 0x420bafd6, 0x429630ff, 0x4304c447, 0x43495e16,
  0x438ed5df, 0x43b5311a, 0x43c3c2c2, 0x43b8151f, 0x43adfbdf, 0x43a2f7e1, 0x437fef6d, 0x4330741e,
  0x432515d7, 0x435d0f5b, 0x437da039, 0x43790bf6, 0x438566dd, 0x4391d551, 0x4399708f, 0x439e3af3,
  0x439e9005, 0x43ade5b1, 0x43c73d34, 0x43d3742e, 0x43c9df01, 0x43b1ab17, 0x43991b9d, 0x4382497e,
  0x43792fec, 0x438f4198, 0x43b05d93, 0x43d1033f, 0x43d0aed4, 0x43a4e866, 0x435d7c60, 0x432601b5,
  0x4325be5b, 0x4329fc58, 0x43340923, 0x43636aff, 0x438cc066, 0x4397f5f9, 0x438e92a0, 0x437c7230,
  0x43885e2c, 0x43a7f916, 0x43b2f3a8, 0x439f3fa2, 0x4382eb34, 0x435e5396, 0x4347b659, 0x433171e6,
  0x43242967, 0x432c6588, 0x434a00ab, 0x43846b47, 0x43a79891, 0x43b7cf09, 0x43abf44d, 0x4382fcad,
  0x43334664, 0x431036e3, 0x430758a7, 0x432730e5, 0x438060f6, 0x43b473b4, 0x43d3b0a5, 0x43cafa5b,
  0x43a2fa12, 0x436e6ee3, 0x432bb1bf, 0x42f6ed1a, 0x42d846e4, 0x4305112f, 0x433f2b2d, 0x437d6518,
  0x43814846, 0x435e80ba, 0x434032ce, 0x43167f97, 0x42d21a8b, 0x42ce6010, 0x43033612, 0x4326f486,
  0x43650c17, 0x4389f60c, 0x438b241c, 0x43835128, 0x437cb9fd, 0x438a3e2c, 0x439690cf, 0x438fdcfa,
  0x4380c1bd, 0x436c68bd, 0x4365ff0e, 0x4356740e, 0x4350833d, 0x437e2738, 0x439b9192, 0x43a0f930,
  0x43917091, 0x436d8fd5, 0x432d15b7, 0x4307ac83, 0x431e827a, 0x436234ab, 0x4389daad, 0x438b4e82,
  0x438a906a, 0x4396a5c2, 0x43aea6f9, 0x43c89d7b, 0x43da1404, 0x43dd2558, 0x43da7787, 0x43d36143,
  0x43bac370, 0x43a5cc42, 0x43a7b0f5, 0x43a5a208, 0x4390f7e4, 0x4384b4be, 0x43913afb, 0x43a7a9d9,
  0x43aff31d, 0x439b957d, 0x4370b755, 0x433a4487, 0x4314376a, 0x42d5b9c8, 0x429876ed, 0x42a0a901,
  0x43072ca6, 0x43731828, 0x43acca6d, 0x43c50801, 0x43c29e95, 0x43b27443, 0x43a26957, 0x43853dd5,
  0x433fff34, 0x430fb30d, 0x42e06b53, 0x42edba37, 0x4325f2f7, 0x4345dfb2, 0x43693447, 0x439962d5,
  0x43b48aa8, 0x43a5b4cf, 0x437e3297, 0x4355d11a, 0x43726dcb, 0x439e8850, 0x43c77474, 0x43e0a17d,
  0x43e10dea, 0x43d21978, 0x43b5689c, 0x438b91ca, 0x434b460f, 0x431a3a0c, 0x4305a8d6, 0x432395a3,
  0x43676e05, 0x438cc469, 0x4398ca33, 0x43a9b3e5, 0x43c75d91, 0x43e10215, 0x43df8320, 0x43c3fc39,
  0x43a3036d, 0x43851325, 0x4356e1f6, 0x4349610a, 0x434fb5bc, 0x4334a14e, 0x430b5839, 0x43089c00,
  0x433bc57d, 0x4380d7cf, 0x439a1346, 0x43a13c71, 0x439b63bc, 0x43988040, 0x439c85ac, 0x43af6ca0,
  0x43cd09fc, 0x43d9002c, 0x43c4fea2, 0x4398fe40, 0x4351ff67, 0x43065689, 0x42bc5742, 0x42fedf8b,
  0x4367e50d, 0x43a5fece, 0x43bd9b25, 0x43c9bc84, 0x43db40db, 0x43e99635, 0x43e07f53, 0x43b3ebcc,
  0x437fe55a, 0x435b263a, 0x43647eb7, 0x435b4c29, 0x434b7d39, 0x4370266c, 0x43a8bb67, 0x43e10c9f,
  0x43fa0a1e, 0x43dd84ef, 0x43a5506f, 0x4361271d, 0x43214352, 0x43137f1f, 0x432f9ebf, 0x4360ceab,
  0x43726863, 0x436067a8, 0x43607f72, 0x4381acd9, 0x439140df, 0x438590b9, 0x4357802e, 0x4337afb7,
  0x4311bce8, 0x42cde6ba, 0x42d40734, 0x431b68c6, 0x4356df4f, 0x438c6b96, 0x43a1a252, 0x4399d196,
  0x43886f78, 0x4370256e, 0x4352e5bd, 0x434c1499, 0x434be6b2, 0x43598d5e, 0x437bdb92, 0x4383e975,
  0x438940bd, 0x43947115, 0x438f9279, 0x437f2316, 0x4355ebb1, 0x433429d2, 0x43515044, 0x4399c0d1,
  0x43c5c108, 0x43c137f7, 0x439bd6cb, 0x438577a3, 0x4380083a, 0x436f476a, 0x43566215, 0x434ca0e5,
  0x4355281d, 0x43666a02, 0x4382929a, 0x4386af83, 0x436380b8, 0x4343ba24, 0x43663ff9, 0x4390966d,
  0x439c1083, 0x4398e8f6, 0x4394f83d, 0x438cd846, 0x436f2bd7, 0x43423c06, 0x4336d2bd, 0x4350c8f1,
  0x43838394, 0x43962c99, 0x4387621d, 0x4352b5b3, 0x43290bfa, 0x4300c6a6, 0x42e916c7, 0x43312cb1,
  0x437e460b, 0x438895ee, 0x4375af20, 0x43660903, 0x437ab210, 0x439612a5, 0x43b33df2, 0x43bd36d6,
  0x43a3f2e0, 0x437e4cae, 0x435277b5, 0x434147c8, 0x433b23a5, 0x4330c7a5, 0x43277e79, 0x432eb489,
  0x4328a38b, 0x43228329, 0x433dbcd9, 0x43580507, 0x436175b3, 0x4368714a, 0x43874e91, 0x43ab12b4,
  0x43c47f80, 0x43c848f1, 0x43b656ce, 0x4399f185, 0x43947563, 0x43ac7cb5, 0x43bd80a2, 0x43b66f4e,
  0x43ab5f31, 0x439e0ff3, 0x43815df4, 0x434282dc, 0x433be27b, 0x43668371, 0x4383bd2c, 0x4398b2c8,
  0x43ba2d82, 0x43c86bea, 0x43a71e21, 0x436259c1, 0x433c1596, 0x435fb38b, 0x436c71b5, 0x43584810,
  0x437113da, 0x4395cb9d, 0x43a1d807, 0x4398b194, 0x438c122a, 0x438fb806, 0x43a10a3e, 0x43a4af02,
  0x438c30f7, 0x434b90fe, 0x4319ea03, 0x43231921, 0x4347c678, 0x4361df3c, 0x43863d76, 0x43ab8827,
  0x43c78edb, 0x43c74274, 0x43ad32de, 0x438a78a3, 0x436fcb57, 0x4382eefd, 0x4395a283, 0x43948344,
  0x438d6d14, 0x438aa692, 0x43827a9c, 0x43784f3f, 0x43788d4c, 0x436f18c7, 0x435b34ff, 0x43538dba,
  0x436dbfbf, 0x438b533b, 0x439a7f99, 0x43a343ba, 0x43a143f5, 0x439ac668, 0x439504dc, 0x4395e298,
  0x439f811f, 0x43a950b9, 0x43b0e3d6, 0x43ad8cec, 0x439905d9, 0x4380391d, 0x434ba7f8, 0x4303dd09,
  0x4278ab30, 0x42189928, 0x4285df5f, 0x42d7e5f4, 0x43046b6e, 0x43069bf1, 0x42e72aaa, 0x42c88d09,
  0x43095f4c, 0x4355dac4, 0x438bb511, 0x43a14219, 0x43a9d7d8, 0x43b2d079, 0x43b33d33, 0x439a7c1b,
  0x43884f04, 0x438afd14, 0x4386ce10, 0x436632ed, 0x4333c4d5, 0x430993fa, 0x4315269f, 0x434d3653,
  0x4374e246, 0x43870b4c, 0x4389c1cf, 0x4382b3c0, 0x438ae286, 0x439b819b, 0x43a87e75, 0x43bbcd9c,
  0x43c4c502, 0x43acc55e, 0x438fa8a3, 0x438e3f3a, 0x439adc84, 0x43a6ce07, 0x43b5ff1e, 0x43c57dba,
  0x43cb7fd0, 0x43bb160b, 0x4395dfdf, 0x43702546, 0x4356cb20, 0x43450d65, 0x434a07d5, 0x436aea75,
  0x43839571, 0x43826ffc, 0x43721d44, 0x4383b0da, 0x43a3c0dd, 0x43bba6e6, 0x43b31866, 0x438ee5ae,
  0x435d6b94, 0x434357ca, 0x43477337, 0x436f2098, 0x439b8c79, 0x43b30302, 0x43a4845d, 0x4382bb10,
  0x435633ac, 0x433a9585, 0x43138812, 0x42e7a906, 0x431a4dd7, 0x437dd4d6, 0x43aeae5b, 0x43d585db,
  0x43e4bac2, 0x43c8357f, 0x4393ea20, 0x435f4d0b, 0x43741adb, 0x43a9d85a, 0x43cd8724, 0x43c7f326,
  0x43afa4bc, 0x439ab7ea, 0x438b46eb, 0x438876d3, 0x438b7822, 0x438d312d, 0x43937f87, 0x43970845,
  0x4398683b, 0x4393e9de, 0x43888bb5, 0x43848eae, 0x437bff3a, 0x436391d3, 0x43626551, 0x4387de89,
  0x43a44d73, 0x43b327f6, 0x43b7f59e, 0x43a3d9c8, 0x4360906a, 0x431082e8, 0x432b4c5d, 0x4387fbab,
  0x43b351f5, 0x43bc6ec5, 0x43ad5267, 0x43a1830a, 0x439c424a, 0x4395a124, 0x43898aa1, 0x437dd4f6,
  0x4385caaf, 0x43975cb5, 0x439f6d43, 0x439a9b90, 0x438dccd2, 0x438aa5f9, 0x43a187d8, 0x43c06bb2,
  0x43d34346, 0x43d34dae, 0x43b4eb8e, 0x438c48f7, 0x4380d219, 0x4388a8ef, 0x4378cac5, 0x432bcca3,
  0x42af9630, 0x42840753, 0x4314919e, 0x438f1c5d, 0x43c0ed96, 0x43c7e4cf, 0x43b5a7f5, 0x4398d3a6,
  0x437f5c27, 0x437dc36e, 0x4389dc78, 0x438a8a25, 0x437c5a6a, 0x436d5a63, 0x4366fa64, 0x43474c6e,
  0x4326f84d, 0x431a763b, 0x431a6667, 0x4333b6a5, 0x435e825e, 0x436f8587, 0x43571174, 0x433c0eac,
  0x43391424, 0x435af17e, 0x43979c31, 0x43c9ba99, 0x43ec546a, 0x43ebaa91, 0x43c83ed5, 0x43abf148,
  0x43ad5554, 0x43af71b1, 0x43957a3c, 0x4352ebe4, 0x430e5861, 0x43083521, 0x43537ec9, 0x439fe43b,
  0x43c61758, 0x43d0b250, 0x43b836aa, 0x43878327, 0x4351e63d, 0x435d34f5, 0x438276fc, 0x439ef5c0,
  0x43c5cc28, 0x43d7fa5b, 0x43bd5a94, 0x4397c575, 0x438c90c1, 0x43929602, 0x439f8418, 0x43ad6e59,
  0x43a47f39, 0x43898f2f, 0x43649ad7, 0x433d3561, 0x432e0dae, 0x434236cc, 0x436780fe, 0x4384da45,
  0x4393a1eb, 0x439b467c, 0x43929cab, 0x4385bfe2, 0x436dcdbc, 0x4343aab6, 0x43218f46, 0x43107120,
  0x42ff0dd0, 0x42e5d877, 0x430fef50, 0x43435821, 0x434b569a, 0x4320af68, 0x42f6458b, 0x43051868,
  0x4321993d, 0x43394d35, 0x4355fc56, 0x4371ae38, 0x4383996c, 0x437bab27, 0x4362ef68, 0x435a01b1,
  0x43361937, 0x4304dd41, 0x4311a267, 0x435bbb08, 0x43941bca, 0x43a5e068, 0x43984f6c, 0x437ef27f,
  0x4355fbe3, 0x43277e55, 0x42f0e3f6, 0x42cd6166, 0x4300891f, 0x431e7c60, 0x431f24f1, 0x43239db7,
  0x4361f8a6, 0x43a2a773, 0x43c4a4d2, 0x43ca85db, 0x43b64805, 0x438f86b3, 0x436ae844, 0x437dbabc,
  0x438edd88, 0x4386a6cd, 0x4362609e, 0x4349a7e9, 0x4342a492, 0x43391558, 0x434fbd2d, 0x438bec20,
  0x43ab86b7, 0x43b4d219, 0x43a51eef, 0x437db2bb, 0x433d13ff, 0x434a6751, 0x43896682, 0x43ae456d,
  0x43c377a6, 0x43c28da5, 0x43be6950, 0x43bbb6ce, 0x43a6363c, 0x438056cb, 0x433ada82, 0x4314f720,
  0x43249a27, 0x43754b65, 0x43a77c44, 0x43bdb79b, 0x43c60c25, 0x43cc071d, 0x43d38fd5, 0x43cd57d9,
  0x43a7bffb, 0x437a53fc, 0x4346a7ac, 0x4337b0cd, 0x434ea9f8, 0x435d2f94, 0x43637180, 0x43868990,
  0x43ab653f, 0x43c4ecad, 0x43b5d6e6, 0x43852d19, 0x433c153c, 0x4349b60a, 0x43914084, 0x43b977ff,
  0x43c4c68d, 0x43c6545b, 0x43cc6a87, 0x43c8f1ee, 0x43b141bb, 0x438dac90, 0x4367285c, 0x4360b8db,
  0x4383dc40, 0x43989b0c, 0x439c15ea, 0x439b768b, 0x43a0f50a, 0x43a52711, 0x439e329d, 0x4389c516,
  0x435db9e5, 0x434dec58, 0x436bae28, 0x43859e22, 0x438bd555, 0x4381caf5, 0x43672e45, 0x435d6016,
  0x435d9994, 0x43638c94, 0x437dbf94, 0x4395683a, 0x439d6ccc, 0x438b20ed, 0x436e06eb, 0x43660f9b,
  0x4362fad7, 0x433cea9a, 0x43057a7e, 0x42f50f78, 0x43256ecd, 0x4356e721, 0x43742660, 0x437c751e,
  0x4384cdf2, 0x439c9c8c, 0x43afcffb, 0x43ac8d00, 0x43a811c8, 0x43ac053c, 0x43aa3426, 0x4393d877,
  0x4352a7d2, 0x43031997, 0x42d61d7a, 0x42ff69bc, 0x431f5990, 0x434f53c9, 0x4380ea4a, 0x4386f210,
  0x4382d930, 0x438ed2ce, 0x43a7a697, 0x43ae4fd2, 0x43977ade, 0x43723c6c, 0x43453fc8, 0x432e72b7,
  0x432fe15d, 0x43383e54, 0x4344757b, 0x43749e17, 0x43a3213d, 0x43c70d9f, 0x43da20f8, 0x43d47638,
  0x43be9a03, 0x43a84304, 0x43882652, 0x4352a80f, 0x433cc56e, 0x43358e57, 0x4344da68, 0x4382966b,
  0x43a68d55, 0x43b15086, 0x43a2a850, 0x43846cf6, 0x432ec5c3, 0x42e5ea98, 0x431a884a, 0x436a4852,
  0x4393cc35, 0x43af1573, 0x43b71d24, 0x43ae0f5d, 0x43a672bf, 0x4396353c, 0x438187eb, 0x43618ca5,
  0x435530e5, 0x43719255, 0x43907123, 0x43abc12c, 0x43c90347, 0x43df7d29, 0x43ebdde5, 0x43e9c3a2]

/-- **The reference output of the filter**, one sample for each byte. -/
def reference : List Float32 := referenceWords.map Float32.ofBits

end BenchSuite.Sample
